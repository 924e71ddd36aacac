import SliceGrowth.Text.DecimalDigit
import SliceGrowth.Text.Ending
import SliceGrowth.Text.Lowercase

/-!
What a build is made for: an operating system, an architecture and a set of tags. A context satisfies
a tag that it names, that its system implies, or that names a release of the language.
-/
namespace SliceGrowth.Build

def knownSystems : List String :=
  ["aix", "android", "darwin", "dragonfly", "freebsd", "hurd", "illumos", "ios", "js", "linux", "nacl",
    "netbsd", "openbsd", "plan9", "solaris", "wasip1", "windows", "zos"]

def unixSystems : List String :=
  ["aix", "android", "darwin", "dragonfly", "freebsd", "hurd", "illumos", "ios", "linux", "netbsd",
    "openbsd", "solaris"]

def knownArchitectures : List String :=
  ["386", "amd64", "amd64p32", "arm", "armbe", "arm64", "arm64be", "loong64", "mips", "mipsle",
    "mips64", "mips64le", "mips64p32", "mips64p32le", "ppc", "ppc64", "ppc64le", "riscv", "riscv64",
    "s390", "s390x", "sparc", "sparc64", "wasm"]

/-- The system that another one also counts as. -/
def impliedSystem? : String → Option String
  | "android" => some "linux"
  | "illumos" => some "solaris"
  | "ios" => some "darwin"
  | _ => none

/-- `go1.` and a number. Every release so far counts as reached. -/
def isReleaseTag (tag : String) : Bool :=
  match tag.toList with
  | 'g' :: 'o' :: '1' :: '.' :: digits => !digits.isEmpty && digits.all Text.isDecimalDigit
  | _ => false

structure Context where
  system : String
  architecture : String
  tags : List String := []

def Context.satisfies (context : Context) (tag : String) : Bool :=
  context.tags.contains tag || tag == context.system || tag == context.architecture ||
    impliedSystem? context.system == some tag ||
    (if tag == "unix" then unixSystems.contains context.system else isReleaseTag tag)

/-- The architecture that a machine's own name stands for. -/
def architectureOf (machine : String) : String :=
  match machine with
  | "x86_64" | "amd64" => "amd64"
  | "aarch64" | "arm64" => "arm64"
  | "i386" | "i686" | "x86" => "386"
  | "armv7l" | "armv6l" => "arm"
  | other => other

def systemOf (platform : String) : String :=
  if platform == "win32" then "windows"
  else if Text.beginsWith "freebsd" platform then "freebsd"
  else platform

/-- The machine a build runs on. -/
structure Host where
  platform : String := "linux"
  machine : String := "x86_64"

def Host.context (host : Host) (tags : List String) : Context :=
  { system := systemOf host.platform
    architecture := architectureOf (Text.lower host.machine)
    tags := tags }

end SliceGrowth.Build
