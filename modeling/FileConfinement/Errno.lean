/-!
# System error numbers

The number with which a system call fails, and its two wordings: a sentence with
the number, used for failed operations on files and rulesets, and a symbolic
name with a sentence, used for failed queries about the system.
-/

namespace FileConfinement

/-- The error number of a failed system call. -/
structure Errno where
  code : Nat
deriving DecidableEq, Repr

namespace Errno

/-- What is said about one error number. -/
structure Wording where
  /-- The sentence that describes the error. -/
  sentence : String
  /-- The symbolic name of the error. -/
  symbol : String
  /-- The sentence that follows the symbolic name. -/
  gloss : String
deriving DecidableEq, Repr

/-- The wording of an error with a single sentence. -/
def Wording.same (symbol sentence : String) : Wording := ⟨sentence, symbol, sentence⟩

/-- No such file or directory. -/
def notFound : Errno := ⟨2⟩

/-- The operation needs a file and met a directory. -/
def isDirectory : Errno := ⟨21⟩

/-- The wordings of the error numbers in use, and of zero, which is no error. -/
def wordings : List (Nat × Wording) :=
  [(0, ⟨"Success", "UnknownErrno", "Unknown errno"⟩),
    (1, .same "EPERM" "Operation not permitted"),
    (2, .same "ENOENT" "No such file or directory"),
    (3, .same "ESRCH" "No such process"),
    (4, .same "EINTR" "Interrupted system call"),
    (5, ⟨"Input/output error", "EIO", "I/O error"⟩),
    (6, .same "ENXIO" "No such device or address"),
    (7, .same "E2BIG" "Argument list too long"),
    (8, .same "ENOEXEC" "Exec format error"),
    (9, ⟨"Bad file descriptor", "EBADF", "Bad file number"⟩),
    (10, .same "ECHILD" "No child processes"),
    (11, ⟨"Resource temporarily unavailable", "EAGAIN", "Try again"⟩),
    (12, ⟨"Cannot allocate memory", "ENOMEM", "Out of memory"⟩),
    (13, .same "EACCES" "Permission denied"),
    (14, .same "EFAULT" "Bad address"),
    (15, .same "ENOTBLK" "Block device required"),
    (16, .same "EBUSY" "Device or resource busy"),
    (17, .same "EEXIST" "File exists"),
    (18, ⟨"Invalid cross-device link", "EXDEV", "Cross-device link"⟩),
    (19, .same "ENODEV" "No such device"),
    (20, .same "ENOTDIR" "Not a directory"),
    (21, .same "EISDIR" "Is a directory"),
    (22, .same "EINVAL" "Invalid argument"),
    (23, ⟨"Too many open files in system", "ENFILE", "File table overflow"⟩),
    (24, .same "EMFILE" "Too many open files"),
    (25, ⟨"Inappropriate ioctl for device", "ENOTTY", "Not a typewriter"⟩),
    (26, .same "ETXTBSY" "Text file busy"),
    (27, .same "EFBIG" "File too large"),
    (28, .same "ENOSPC" "No space left on device"),
    (29, .same "ESPIPE" "Illegal seek"),
    (30, .same "EROFS" "Read-only file system"),
    (31, .same "EMLINK" "Too many links"),
    (32, .same "EPIPE" "Broken pipe"),
    (33, ⟨"Numerical argument out of domain", "EDOM", "Math argument out of domain of func"⟩),
    (34, ⟨"Numerical result out of range", "ERANGE", "Math result not representable"⟩),
    (35, ⟨"Resource deadlock avoided", "EDEADLK", "Resource deadlock would occur"⟩),
    (36, .same "ENAMETOOLONG" "File name too long"),
    (37, ⟨"No locks available", "ENOLCK", "No record locks available"⟩),
    (38, .same "ENOSYS" "Function not implemented"),
    (39, .same "ENOTEMPTY" "Directory not empty"),
    (40, ⟨"Too many levels of symbolic links", "ELOOP", "Too many symbolic links encountered"⟩),
    (42, .same "ENOMSG" "No message of desired type"),
    (43, .same "EIDRM" "Identifier removed"),
    (44, .same "ECHRNG" "Channel number out of range"),
    (45, .same "EL2NSYNC" "Level 2 not synchronized"),
    (46, .same "EL3HLT" "Level 3 halted"),
    (47, .same "EL3RST" "Level 3 reset"),
    (48, .same "ELNRNG" "Link number out of range"),
    (49, .same "EUNATCH" "Protocol driver not attached"),
    (50, .same "ENOCSI" "No CSI structure available"),
    (51, .same "EL2HLT" "Level 2 halted"),
    (52, .same "EBADE" "Invalid exchange"),
    (53, .same "EBADR" "Invalid request descriptor"),
    (54, .same "EXFULL" "Exchange full"),
    (55, .same "ENOANO" "No anode"),
    (56, .same "EBADRQC" "Invalid request code"),
    (57, .same "EBADSLT" "Invalid slot"),
    (59, .same "EBFONT" "Bad font file format"),
    (60, .same "ENOSTR" "Device not a stream"),
    (61, .same "ENODATA" "No data available"),
    (62, .same "ETIME" "Timer expired"),
    (63, .same "ENOSR" "Out of streams resources"),
    (64, .same "ENONET" "Machine is not on the network"),
    (65, .same "ENOPKG" "Package not installed"),
    (66, .same "EREMOTE" "Object is remote"),
    (67, .same "ENOLINK" "Link has been severed"),
    (68, .same "EADV" "Advertise error"),
    (69, .same "ESRMNT" "Srmount error"),
    (70, .same "ECOMM" "Communication error on send"),
    (71, .same "EPROTO" "Protocol error"),
    (72, .same "EMULTIHOP" "Multihop attempted"),
    (73, .same "EDOTDOT" "RFS specific error"),
    (74, ⟨"Bad message", "EBADMSG", "Not a data message"⟩),
    (75, .same "EOVERFLOW" "Value too large for defined data type"),
    (76, .same "ENOTUNIQ" "Name not unique on network"),
    (77, .same "EBADFD" "File descriptor in bad state"),
    (78, .same "EREMCHG" "Remote address changed"),
    (79, .same "ELIBACC" "Can not access a needed shared library"),
    (80, .same "ELIBBAD" "Accessing a corrupted shared library"),
    (81, .same "ELIBSCN" ".lib section in a.out corrupted"),
    (82, .same "ELIBMAX" "Attempting to link in too many shared libraries"),
    (83, .same "ELIBEXEC" "Cannot exec a shared library directly"),
    (84, ⟨"Invalid or incomplete multibyte or wide character", "EILSEQ",
      "Illegal byte sequence"⟩),
    (85, .same "ERESTART" "Interrupted system call should be restarted"),
    (86, .same "ESTRPIPE" "Streams pipe error"),
    (87, .same "EUSERS" "Too many users"),
    (88, .same "ENOTSOCK" "Socket operation on non-socket"),
    (89, .same "EDESTADDRREQ" "Destination address required"),
    (90, .same "EMSGSIZE" "Message too long"),
    (91, .same "EPROTOTYPE" "Protocol wrong type for socket"),
    (92, .same "ENOPROTOOPT" "Protocol not available"),
    (93, .same "EPROTONOSUPPORT" "Protocol not supported"),
    (94, .same "ESOCKTNOSUPPORT" "Socket type not supported"),
    (95, ⟨"Operation not supported", "EOPNOTSUPP",
      "Operation not supported on transport endpoint"⟩),
    (96, .same "EPFNOSUPPORT" "Protocol family not supported"),
    (97, .same "EAFNOSUPPORT" "Address family not supported by protocol"),
    (98, .same "EADDRINUSE" "Address already in use"),
    (99, .same "EADDRNOTAVAIL" "Cannot assign requested address"),
    (100, .same "ENETDOWN" "Network is down"),
    (101, .same "ENETUNREACH" "Network is unreachable"),
    (102, ⟨"Network dropped connection on reset", "ENETRESET",
      "Network dropped connection because of reset"⟩),
    (103, .same "ECONNABORTED" "Software caused connection abort"),
    (104, .same "ECONNRESET" "Connection reset by peer"),
    (105, .same "ENOBUFS" "No buffer space available"),
    (106, .same "EISCONN" "Transport endpoint is already connected"),
    (107, .same "ENOTCONN" "Transport endpoint is not connected"),
    (108, .same "ESHUTDOWN" "Cannot send after transport endpoint shutdown"),
    (109, .same "ETOOMANYREFS" "Too many references: cannot splice"),
    (110, .same "ETIMEDOUT" "Connection timed out"),
    (111, .same "ECONNREFUSED" "Connection refused"),
    (112, .same "EHOSTDOWN" "Host is down"),
    (113, .same "EHOSTUNREACH" "No route to host"),
    (114, .same "EALREADY" "Operation already in progress"),
    (115, .same "EINPROGRESS" "Operation now in progress"),
    (116, .same "ESTALE" "Stale file handle"),
    (117, .same "EUCLEAN" "Structure needs cleaning"),
    (118, .same "ENOTNAM" "Not a XENIX named type file"),
    (119, .same "ENAVAIL" "No XENIX semaphores available"),
    (120, .same "EISNAM" "Is a named type file"),
    (121, .same "EREMOTEIO" "Remote I/O error"),
    (122, ⟨"Disk quota exceeded", "EDQUOT", "Quota exceeded"⟩),
    (123, .same "ENOMEDIUM" "No medium found"),
    (124, .same "EMEDIUMTYPE" "Wrong medium type"),
    (125, .same "ECANCELED" "Operation canceled"),
    (126, .same "ENOKEY" "Required key not available"),
    (127, .same "EKEYEXPIRED" "Key has expired"),
    (128, .same "EKEYREVOKED" "Key has been revoked"),
    (129, .same "EKEYREJECTED" "Key was rejected by service"),
    (130, .same "EOWNERDEAD" "Owner died"),
    (131, .same "ENOTRECOVERABLE" "State not recoverable"),
    (132, .same "ERFKILL" "Operation not possible due to RF-kill"),
    (133, .same "EHWPOISON" "Memory page has hardware error")]

/-- The wording of an error number; an unlisted number is named by itself. -/
def wording (errno : Errno) : Wording :=
  (wordings.lookup errno.code).getD
    ⟨s!"Unknown error {errno.code}", "UnknownErrno", "Unknown errno"⟩

/-- The sentence of an error, with its number. -/
def message (errno : Errno) : String :=
  s!"{errno.wording.sentence} (os error {errno.code})"

/-- The symbolic name of an error, with its sentence. -/
def namedMessage (errno : Errno) : String :=
  s!"{errno.wording.symbol}: {errno.wording.gloss}"

end Errno
end FileConfinement
