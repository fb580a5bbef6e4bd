import FileConfinement.Failure
import FileConfinement.Host
import FileConfinement.KernelVersion

/-!
# Support for confinement

What a host's kernel says about its ability to confine file access.
-/

namespace FileConfinement

/-- The version of a kernel release, or the failure that quotes the release. -/
def KernelVersion.ofRelease (release : String) : Except Failure KernelVersion :=
  match KernelVersion.ofRelease? release with
  | some version => .ok version
  | none => .error (.environment (.unversionedRelease release))

def Host.kernelVersion (host : Host) : Except Failure KernelVersion :=
  match host.releaseError with
  | some errno => .error (.query (.release errno))
  | none => KernelVersion.ofRelease host.releaseText

/-- The state of confinement on a host. -/
structure Support where
  kernel : KernelVersion
  /-- The version of the confinement interface, if the kernel offers it. -/
  abi : Option Nat
deriving DecidableEq, Repr

namespace Support

def detect (host : Host) : Except Failure Support :=
  host.kernelVersion.map fun kernel => ⟨kernel, host.abiVersion?.map UInt32.toNat⟩

def isSupported (support : Support) : Bool :=
  support.kernel.isSupported

def isAvailable (support : Support) : Bool :=
  support.isSupported && support.abi.isSome

def mark (met : Bool) : String :=
  if met then "[ok]" else "[--]"

/-- One line for the kernel and one for the interface. -/
def summary (support : Support) : String :=
  let kernel :=
    s!"{mark support.isSupported} Kernel {support.kernel.display} (6.1 or newer required)"
  let interface := match support.abi with
    | some version => s!"{mark true} Landlock ABI v{version}"
    | none => s!"{mark false} Landlock LSM enabled"
  s!"{kernel}\n{interface}"

end Support
end FileConfinement
