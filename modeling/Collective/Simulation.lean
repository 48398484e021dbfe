import Collective.Call

/-!
# Scripted environments

A script plays the world around a scheduler without a device: it says, file by file
and size by size, what succeeds and what is refused.  `Script.environment` answers
every call by the script.  What the history changes - the next free address, the
stack limit - is read off the history, and `Script.after` carries it over into the
script.
-/

namespace Collective

/-- What the runtime does with one algorithm file, as far as it is scripted. -/
structure RuntimeScript where
  loadRefusal : Option String := none
  deviceBytes : Option UInt64 := none
  needsProxy : Option Bool := none
  needsFence : Option Bool := none
  unloadRefusal : Option String := none
  connectRefusal : Option String := none
  scratchBytes : Option UInt64 := none
  launchRefusal : Option String := none
  deriving Inhabited

/-- What the device does.  Refusals go by the size of the buffer, in decimal, or by
`*` for all others. -/
structure DeviceScript where
  allocateRefusals : List (String × String) := []
  freeRefusals : List (String × String) := []
  stackLimitRefusal : Option String := none
  stackLimit : Option UInt64 := none
  setStackRefusal : Option String := none
  initKernelsRefusal : Option String := none
  requiredStack : Option UInt64 := none
  deriving Inhabited

/-- What the installed external scheduler answers to one kind of operation, or to
every kind. -/
structure ExternalRule where
  kind : Option Int32 := none
  verdict : Verdict := {}
  deriving Inhabited

/-- An external scheduler as a table of answers. -/
structure ExternalScript where
  startCode : Int32 := 0
  stopCode : Int32 := 0
  select : Block → Verdict := fun _ => {}
  deriving Inhabited

/-- A scripted world. -/
structure Script where
  files : FileTree := {}
  /-- Reads the metadata out of the text of an algorithm file. -/
  describe : String → Fallible Metadata := fun _ => .error "not metadata"
  executableDirectory : Option Path := none
  runtime : List (String × RuntimeScript) := []
  device : DeviceScript := {}
  /-- Refusals of plain collectives, by the word of the kind or by `*`. -/
  plainRefusals : List (String × String) := []
  installed : ExternalScript := {}
  libraries : List (Path × ExternalScript) := []
  /-- The address of the next buffer. -/
  nextAddress : UInt64 := 1048576

namespace ExternalScript

/-- The answer of the first rule that applies to a block. -/
def byRules (rules : List ExternalRule) (block : Block) : Verdict :=
  match rules.find? fun rule => rule.kind.all (· == block.kind) with
  | some rule => rule.verdict
  | none => {}

end ExternalScript

/-- The kind of a plain collective. -/
def PlainArguments.kind : PlainArguments → Kind
  | .reduce .. => .reduce
  | .broadcast .. => .broadcast
  | .allReduce .. => .allReduce
  | .reduceScatter .. => .reduceScatter
  | .allGather .. => .allGather
  | .send .. => .send
  | .recv .. => .recv
  | .allToAll .. => .allToAll

namespace Script

/-- The entry for a key, or the one for `*`. -/
def lookup {α : Type} (entries : List (String × α)) (key : String) : Option α :=
  entries.lookup key <|> entries.lookup "*"

/-- What is scripted of a file: by its last name, and where nothing is there, for
`*`. -/
def ofFile {α : Type} (script : Script) (file : Path) (pick : RuntimeScript → Option α) :
    Option α :=
  let name := (file.lastName?.bind fun name => (⟨name⟩ : Path).toString?).getD ""
  (script.runtime.lookup name).bind pick <|> (script.runtime.lookup "*").bind pick

/-- Accepts, unless there is a refusal. -/
def unlessRefused {α : Type} (refusal : Option String) (value : α) : Fallible α :=
  match refusal with
  | some reason => .error reason
  | none => .ok value

/-- How far the addresses have moved on: by the size of each buffer, and by at least
one. -/
def spent (history : History) : UInt64 :=
  history.foldr
    (fun event total =>
      match event with
      | ⟨.allocate _ bytes, .ok _⟩ => total + max bytes 1
      | _ => total)
    0

/-- The stack limit that was set last. -/
def latestLimit? : History → Option UInt64
  | [] => none
  | ⟨.setStackLimit bytes, .ok _⟩ :: _ => some bytes
  | _ :: earlier => latestLimit? earlier

/-- The script of an external scheduler. -/
def scheduler (script : Script) : External → ExternalScript
  | .installed _ => script.installed
  | .library path => (script.libraries.lookup path).getD {}

/-- The answer of a script to a call. -/
def answer (script : Script) (history : History) : (call : Call) → call.Answer
  | .openDirectory path => (script.files.list? path).isSome
  | .listDirectory path =>
      match script.files.list? path with
      | some entries => .ok entries
      | none => .error "unreadable"
  | .parse file =>
      match script.files.readText file with
      | .ok text => script.describe text
      | .error _ => .error "unreadable"
  | .openLibrary path => (script.libraries.lookup path).isSome
  | .startExternal external => (script.scheduler external).startCode
  | .selectExternal external block _ => (script.scheduler external).select block
  | .stopExternal external => (script.scheduler external).stopCode
  | .load file _ =>
      unlessRefused (script.ofFile file (·.loadRefusal))
        { deviceBytes := (script.ofFile file (·.deviceBytes)).getD 0
          needsProxy := (script.ofFile file (·.needsProxy)).getD false
          needsFence := (script.ofFile file (·.needsFence)).getD false }
  | .unload algorithm => unlessRefused (script.ofFile algorithm.file (·.unloadRefusal)) ()
  | .connect algorithm _ => unlessRefused (script.ofFile algorithm.file (·.connectRefusal)) ()
  | .scratchBytes algorithm _ => (script.ofFile algorithm.file (·.scratchBytes)).getD 0
  | .launch launch => unlessRefused (script.ofFile launch.algorithm.file (·.launchRefusal)) ()
  | .allocate _ bytes =>
      unlessRefused (lookup script.device.allocateRefusals (toString bytes.toNat))
        { address := ⟨script.nextAddress + spent history⟩, size := bytes }
  | .free _ buffer =>
      unlessRefused (lookup script.device.freeRefusals (toString buffer.size.toNat)) ()
  | .stackLimit =>
      unlessRefused script.device.stackLimitRefusal
        ((latestLimit? history <|> script.device.stackLimit).getD 1024)
  | .setStackLimit _ => unlessRefused script.device.setStackRefusal ()
  | .initKernels _ =>
      unlessRefused script.device.initKernelsRefusal (script.device.requiredStack.getD 512)
  | .plain call => unlessRefused (lookup script.plainRefusals call.arguments.kind.word) ()

/-- The world that a script describes. -/
def environment (script : Script) : Environment :=
  .inOrder script.answer script.executableDirectory

/-- The script that goes on where a history ends. -/
def after (script : Script) (history : History) : Script :=
  { script with
    nextAddress := script.nextAddress + spent history
    device := { script.device with
      stackLimit := latestLimit? history <|> script.device.stackLimit } }

end Script

end Collective
