import Bootstrap.Path

/-!
# Failures

A failure has a cause and, outermost first, the activities it interrupted. Its message is written in one
place, `Failure.message`: the activities and then the cause, with colons between. A cause that is not told
(`unreadable`, `json`, `template`) has no text of its own, so there the last activity ends the message.
-/

namespace Bootstrap

/-- The ways in which the operating system refuses an operation on a path. -/
inductive Errno where
  | notPermitted
  | notFound
  | inputOutput
  | busy
  | alreadyExists
  | notDirectory
  | isDirectory
  | invalidArgument
  | fileTooLarge
  | noSpace
  | nameTooLong
  | notEmpty
  | tooManyLinks
  | quotaExceeded
deriving DecidableEq

namespace Errno

def number : Errno → Nat
  | .notPermitted => 1
  | .notFound => 2
  | .inputOutput => 5
  | .busy => 16
  | .alreadyExists => 17
  | .notDirectory => 20
  | .isDirectory => 21
  | .invalidArgument => 22
  | .fileTooLarge => 27
  | .noSpace => 28
  | .nameTooLong => 36
  | .notEmpty => 39
  | .tooManyLinks => 40
  | .quotaExceeded => 122

def text : Errno → String
  | .notPermitted => "Operation not permitted"
  | .notFound => "No such file or directory"
  | .inputOutput => "Input/output error"
  | .busy => "Device or resource busy"
  | .alreadyExists => "File exists"
  | .notDirectory => "Not a directory"
  | .isDirectory => "Is a directory"
  | .invalidArgument => "Invalid argument"
  | .fileTooLarge => "File too large"
  | .noSpace => "No space left on device"
  | .nameTooLong => "File name too long"
  | .notEmpty => "Directory not empty"
  | .tooManyLinks => "Too many levels of symbolic links"
  | .quotaExceeded => "Disk quota exceeded"

def message (e : Errno) : String := s!"{e.text} (os error {e.number})"

end Errno

/-- The conditions under which an invocation itself refuses to go on. -/
inductive Refusal where
  | noHome
  | unknownPlaybook (name : String)
  | adhocWithoutArguments
  | notCompressed (size : Nat)
  | shortEntry (name : Path) (present declared : Nat)
  | linkWithoutTarget (name : Path)
  | cacheIsHome
  | emptyIdentity (path : Path)
  | editorFailed (editor : String) (exitCode : Int)
deriving DecidableEq

namespace Refusal

def message : Refusal → String
  | .noHome => "unable to determine home directory"
  | .unknownPlaybook name =>
    s!"invalid playbook '{name}', use --list-playbooks to see the available playbooks"
  | .adhocWithoutArguments => "adhoc mode requires at least one argument after '--'"
  | .notCompressed size => s!"bundle is not a gzip stream ({size} bytes)"
  | .shortEntry name present declared =>
    s!"read bundle entry {name.display}: stream ended after {present} of {declared} bytes"
  | .linkWithoutTarget name => s!"symlink {name.display} has no target"
  | .cacheIsHome => "cache path list contains the home directory itself"
  | .emptyIdentity path => s!"unable to locate {path.display}: file is empty"
  | .editorFailed editor exitCode =>
    s!"unable to make the necessary configuration changes: {editor} exited with {exitCode}"

end Refusal

/-- What a failure stems from. -/
inductive Cause where
  | system (errno : Errno)
  /-- A reason that is not told: a broken archive, text that is not UTF-8, a path with a NUL byte, no free
  name. -/
  | unreadable
  | json
  | template
  | refused (refusal : Refusal)
deriving DecidableEq

/-- What was being done when a failure arose. -/
inductive Activity where
  | createDirectory (path : Path)
  | setPermissions (path : Path)
  | openFile (path : Path)
  | createFile (path : Path)
  | writeFile (path : Path)
  | createLink (link target : Path)
  | readFile (path : Path)
  | parseFile (path : Path)
  | readDirectory (path : Path)
  | inspect (path : Path)
  | remove (path : Path)
  | readBundleEntry
  | readMember (name : Path)
  | loadTemplate (path : Path)
  | parseTemplate (name : String)
  | renderTemplate (name : String)
  | locate (path : Path)
  | generateHash
  | generateVaultKey
  | createConfigDirectory (path : Path)
  | createBinDirectory (path : Path)
  | createVaultKey (path : Path)
  | createWorkspaceParent (path : Path)
  | createWorkspace (base : Path)
deriving DecidableEq

namespace Activity

def message : Activity → String
  | .createDirectory p => s!"create directory {p.display}"
  | .setPermissions p => s!"set permissions on {p.display}"
  | .openFile p => s!"open {p.display}"
  | .createFile p => s!"create {p.display}"
  | .writeFile p => s!"write file {p.display}"
  | .createLink link target => s!"create symlink {link.display} -> {target.display}"
  | .readFile p => s!"read {p.display}"
  | .parseFile p => s!"parse {p.display}"
  | .readDirectory p => s!"read directory {p.display}"
  | .inspect p => s!"inspect {p.display}"
  | .remove p => s!"unable to remove {p.display}"
  | .readBundleEntry => "read bundle entry"
  | .readMember name => s!"read bundle entry {name.display}"
  | .loadTemplate p => s!"unable to load template {p.display}"
  | .parseTemplate name => s!"failed to parse template {name}"
  | .renderTemplate name => s!"failed to render template {name}"
  | .locate p => s!"unable to locate {p.display}"
  | .generateHash => "unable to generate hash"
  | .generateVaultKey => "unable to generate vault key"
  | .createConfigDirectory p => s!"failed to create config directory {p.display}"
  | .createBinDirectory p => s!"failed to create bin directory {p.display}"
  | .createVaultKey p => s!"failed to create vault key {p.display}"
  | .createWorkspaceParent p => s!"create workspace parent {p.display}"
  | .createWorkspace base => s!"create workspace in {base.display}"

end Activity

structure Failure where
  /-- The interrupted activities, outermost first. -/
  during : List Activity
  cause : Cause
deriving DecidableEq

namespace Failure

/-- A failure that interrupted nothing that has a name. -/
def of (cause : Cause) : Failure := ⟨[], cause⟩

def ofErrno (e : Errno) : Failure := of (.system e)

def ofRefusal (r : Refusal) : Failure := of (.refused r)

/-- The text of a cause, for those that have one. -/
def causeText : Cause → List String
  | .system e => [e.message]
  | .refused r => [r.message]
  | .unreadable | .json | .template => []

def message (f : Failure) : String :=
  String.intercalate ": " (f.during.map Activity.message ++ causeText f.cause)

/-- The failure of an activity around the failed one. -/
def within (activity : Activity) (f : Failure) : Failure := { f with during := activity :: f.during }

end Failure

end Bootstrap
