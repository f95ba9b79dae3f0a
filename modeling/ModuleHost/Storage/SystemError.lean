/-!
# Errors of the operating system

What files and sockets refuse, with the kind and the text that a report shows, and the one fault of the program's
own that stops a call half way.
-/

namespace ModuleHost

/-- **Why a call has no result**: the operating system refused it, or the program stopped it. -/
inductive SystemError where
  | notFound
  | permissionDenied
  | alreadyExists
  | notADirectory
  | isADirectory
  | storageFull
  | nameTooLong
  | linkLoop
  /-- There are as many threads or processes as the system allows. -/
  | tryAgain
  | addressInUse
  | addressNotAvailable
  /-- A host name that stands for no address. -/
  | unknownHost
  /-- An argument that no call could be made with. -/
  | invalidInput (what : String)
  /-- Content that is not what it should be. -/
  | invalidData (what : String)
  /-- A sum of the program's own is no 64-bit word. Arithmetic is checked, as in every build that is not an
  optimized one, so the thread that asked is stopped: the call does not return. What it did until then is done. -/
  | overflow
  deriving DecidableEq, Inhabited

namespace SystemError

/-- The name of the kind of error. -/
def kind : SystemError → String
  | notFound => "NotFound"
  | permissionDenied => "PermissionDenied"
  | alreadyExists => "AlreadyExists"
  | notADirectory => "NotADirectory"
  | isADirectory => "IsADirectory"
  | storageFull => "StorageFull"
  | nameTooLong => "InvalidFilename"
  | linkLoop => "FilesystemLoop"
  | tryAgain => "WouldBlock"
  | addressInUse => "AddrInUse"
  | addressNotAvailable => "AddrNotAvailable"
  | unknownHost => "Uncategorized"
  | invalidInput _ => "InvalidInput"
  | invalidData _ => "InvalidData"
  | overflow => "Panic"

/-- **The text of the error**, with the number that the system gives it. -/
def message : SystemError → String
  | notFound => "No such file or directory (os error 2)"
  | permissionDenied => "Permission denied (os error 13)"
  | alreadyExists => "File exists (os error 17)"
  | notADirectory => "Not a directory (os error 20)"
  | isADirectory => "Is a directory (os error 21)"
  | storageFull => "No space left on device (os error 28)"
  | nameTooLong => "File name too long (os error 36)"
  | linkLoop => "Too many levels of symbolic links (os error 40)"
  | tryAgain => "Resource temporarily unavailable (os error 11)"
  | addressInUse => "Address already in use (os error 98)"
  | addressNotAvailable => "Cannot assign requested address (os error 99)"
  | unknownHost => "failed to lookup address information: Name or service not known"
  | invalidInput what => what
  | invalidData what => what
  | overflow => "attempt to add with overflow"

end SystemError

end ModuleHost
