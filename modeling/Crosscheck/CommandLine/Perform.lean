import Crosscheck.CommandLine.Command
import Crosscheck.Device.Emulator
import Crosscheck.Report.Archive
import Crosscheck.Report.Text
import Crosscheck.Run
import Crosscheck.Template.Manifest

/-!
# Crosscheck.CommandLine.Perform

**What the commands do.** A command reads files and perhaps the standard input, and finishes with some
output and maybe an error, unless it breaks down, which only runs do. Where several things are wrong,
the configuration comes first, the templates second and the selection third.
-/

namespace Crosscheck.CommandLine

/-- How a command finishes. -/
structure Finish where
  /-- What it writes. -/
  output : String
  /-- What went wrong, if anything did. -/
  error : Option String
  deriving DecidableEq, Repr

/-- Finishes without output. -/
def Finish.failed (message : String) : Finish := ⟨"", some message⟩

variable {m : Type → Type} [Monad m]

/-- Passes on an error. -/
def orFail (result : Except CheckError α) : ExceptT CheckError m α := ExceptT.mk (pure result)

/-- The configuration of a file; without one, that of a blank text. -/
def loadConfig (read? : String → m (Option String)) :
    Option String → ExceptT CheckError m RunConfig
  | some path => do orFail (RunConfig.ofText (← readText read? path))
  | none => return .standard

/-- The templates of a manifest file; without one, the bundled templates. -/
def loadStore (read? : String → m (Option String)) :
    Option String → ExceptT CheckError m TemplateStore
  | some path => TemplateStore.load read? path
  | none => return .bundled

/-- The selection that options describe. -/
def SelectOptions.selection (o : SelectOptions) : Except CheckError Selection :=
  let s : Selection := ⟨o.templates, o.types, o.operations, fun _ => true⟩
  match o.filter with
  | some pattern => s.withPattern pattern
  | none => .ok s

/-- The configuration with what the options say otherwise. -/
def RunOptions.override (o : RunOptions) (c : RunConfig) : RunConfig :=
  { c with
    seed := (o.seed.map (BitVec.ofNat 64)).getD c.seed
    randomSamples := o.samples.getD c.randomSamples
    timeoutMillis := (o.timeoutMillis.map UInt64.ofNat).getD c.timeoutMillis
    jobs := o.jobs.getD c.jobs
    maxUlp := (o.maxUlp.map (BitVec.ofNat 64)).getD c.maxUlp
    shiftPolicy := o.shiftPolicy.getD c.shiftPolicy
    zeroLength := c.zeroLength && !o.noZeroLength }

/-- Some lines, each with its end. -/
def linesOf (ls : List String) : String := String.join (ls.map (· ++ "\n"))

/-- The names of the selected points of every template that has some. -/
def listedNames (config : RunConfig) (store : TemplateStore) (selection : Selection) :
    List (List String) :=
  (store.templates.map fun t =>
    Matrix.names (.builtin config.shiftPolicy) t config.matrixOptions selection).filter (!·.isEmpty)

/-- Lists the names of selected points, template by template. -/
def listingOf (config : RunConfig) (store : TemplateStore) (selection : Selection) : Finish :=
  let names := listedNames config store selection
  ⟨linesOf names.flatten ++ "\n" ++ toString names.flatten.length ++ " point(s) across "
    ++ toString names.length ++ " template(s)\n", none⟩

/-- Lists the points of the templates of a manifest file. -/
def performList (read? : String → m (Option String)) (select : SelectOptions)
    (config : Option String) : ExceptT CheckError m Finish := do
  let config ← loadConfig read? config
  let store ← loadStore read? select.manifest
  let selection ← orFail select.selection
  return listingOf config store selection

/-- Says what rules templates violate. -/
def validationOf (templates : List Template) : Finish :=
  let violations := Template.violationsOf templates
  let errors := violations.countP Violation.isError
  let warnings := violations.countP fun v => v.severity == .warning
  let summary := linesOf (violations.map (·.text)) ++ "\n" ++ toString templates.length
    ++ " template(s), " ++ toString errors ++ " error(s), " ++ toString warnings ++ " warning(s)\n"
  if errors = 0 then ⟨summary ++ "Templates are valid.\n", none⟩
  else ⟨summary, some ("Templates have " ++ toString errors ++ " validation error(s)")⟩

/-- Checks the templates of a manifest file, without stopping at the first violation. -/
def performValidate (read? : String → m (Option String)) (manifest : Option String) :
    ExceptT CheckError m Finish := do
  match manifest with
  | some path => return validationOf (← Manifest.load read? path)
  | none => return validationOf TemplateStore.bundled.templates

/-- The inputs and expected results of a point, one element per line. -/
def inputLines (seed : Word) (p : Point) (expected : Buffer) : String :=
  "\n// " ++ p.name ++ " (seed " ++ toString seed.toNat ++ ", point seed "
    ++ Text.hexPadded 16 p.seed.toNat ++ "): " ++ toString p.length ++ " element(s)\n"
    ++ linesOf (((Buffer.rows p.length (p.inputs.map (·.data))).zip expected.data).zipIdx.map
      fun ((operands, value), i) =>
        "// [" ++ toString i ++ "] "
          ++ ", ".intercalate (p.inputs.zipWith (fun b v => b.type.formatValue v) operands)
          ++ " -> " ++ p.type.formatValue value)

/-- The template that the name of a point starts with. -/
def templateOfPoint (point : String) : String :=
  String.ofList (point.toList.takeWhile (· != '/'))

/-- Shows the kernel of a point, and maybe its inputs. The point is looked for in the template that its
name starts with. -/
def expansionOf (config : RunConfig) (store : TemplateStore) (point : String) (inputs : Bool) :
    Except CheckError Finish :=
  let registry := Registry.builtin config.shiftPolicy
  match store.get? (templateOfPoint point) with
  | none => .ok (.failed ("no template '" ++ templateOfPoint point ++ "'"))
  | some t => do
    let named ← Selection.all.withPattern (Regex.exactly point)
    match Matrix.points registry t config.matrixOptions named with
    | [] => return .failed ("no point named '" ++ point ++ "'")
    | p :: _ =>
      let kernel ← t.expand p
      if inputs then
        match (Oracle.ofRegistry registry).expectedOutput p with
        | .ok expected => return ⟨kernel.source ++ inputLines config.seed p expected, none⟩
        | .error e => return ⟨kernel.source, some e.message⟩
      else return ⟨kernel.source, none⟩

/-- Shows the kernel of a point of the templates of a manifest file. -/
def performExpand (read? : String → m (Option String)) (point : String)
    (manifest config : Option String) (seed : Option Nat) (inputs : Bool) :
    ExceptT CheckError m Finish := do
  let loaded ← loadConfig read? config
  let config := { loaded with seed := (seed.map (BitVec.ofNat 64)).getD loaded.seed }
  let store ← loadStore read? manifest
  orFail (expansionOf config store point inputs)

/-- The device of a run: a program from the command line, the emulator, or the program that the
configuration names, whichever of these comes first. -/
def deviceOf? (programs : Shell.Programs) (o : RunOptions) (program : List String) (c : RunConfig) :
    Option Device :=
  match program, o.emulate, c.device with
  | name :: args, _, _ => some (DeviceProgram.device programs ⟨name, args, 1⟩ c.timeoutMillis)
  | [], true, _ => some (Emulator.device (Registry.builtin c.shiftPolicy) 1)
  | [], false, some d => some (DeviceProgram.device programs d c.timeoutMillis)
  | [], false, none => none

/-- The report as it is written, and whether the run failed. -/
def finishOf (o : RunOptions) (r : Report) : Finish where
  output := if o.asJson then r.archived ++ "\n" else r.text o.verbose
  error :=
    if r.allPassed then none
    else some (toString r.summary.failed ++ " of " ++ toString r.summary.total
      ++ " point(s) failed, " ++ toString r.summary.rejectedTemplates ++ " template(s) rejected")

/-- The texts of the files that arguments name. -/
def filesOf (read? : String → m (Option String)) (args : List String) : m FileTree :=
  args.foldlM (fun tree path => do
    match ← read? path with
    | some text => return (path, text) :: tree
    | none => return tree) []

/-- What a run needs: the runner and the templates, unless there is no device. The programs that can be
started may depend on the files that their arguments name. -/
def prepareRun (programs : Shell.Files → Shell.Programs) (read? : String → m (Option String))
    (select : SelectOptions) (o : RunOptions) (program : List String) :
    ExceptT CheckError m (Option (Runner × TemplateStore)) := do
  let config := o.override (← loadConfig read? o.config)
  let store ← loadStore read? select.manifest
  let selection ← orFail select.selection
  let registry := Registry.builtin config.shiftPolicy
  let args := if program.isEmpty then (config.device.map (·.args)).getD [] else program.drop 1
  let files ← ExceptT.lift (filesOf read? args)
  let known (path : String) : Option String := (files.find? (·.1 == path)).map (·.2)
  return (deviceOf? (programs known) o program config).map fun device =>
    (⟨registry, .ofRegistry registry, device, config, selection⟩, store)

/-- How a run finishes that has, or lacks, what it needs. A run that breaks down does not finish. -/
def finishRun (o : RunOptions) : Except CheckError (Option (Runner × TemplateStore)) → Option Finish
  | .ok (some (runner, store)) => (runner.run store).map (finishOf o)
  | .ok none =>
    some (.failed ("no execution driver: pass --emulate, a driver command after `--`, "
      ++ "or a `driver` section in the config"))
  | .error e => some (.failed e.message)

/-- Answers a request with the emulator. -/
def emulationOf (policy : ShiftPolicy) (request : String) : Finish :=
  match WireRequest.ofText? request with
  | some request => ⟨(Emulator.serve (Registry.builtin policy) request).text ++ "\n", none⟩
  | none => .failed "not a request"

/-- How a command finishes that did what it had to, or met with an error. -/
def finishOrFail : Except CheckError Finish → Finish
  | .ok f => f
  | .error e => .failed e.message

/-- Performs a command; nothing where it breaks down. -/
def Command.perform (programs : Shell.Files → Shell.Programs) (read? : String → m (Option String))
    (standardInput : m String) : Command → m (Option Finish)
  | .list select config => do
    return some (finishOrFail (← (performList read? select config).run))
  | .validate manifest => do
    return some (finishOrFail (← (performValidate read? manifest).run))
  | .expand point manifest config seed inputs => do
    return some (finishOrFail (← (performExpand read? point manifest config seed inputs).run))
  | .run select options program => do
    return finishRun options (← (prepareRun programs read? select options program).run)
  | .emulate policy => do
    return some (emulationOf policy (← standardInput))

end Crosscheck.CommandLine
