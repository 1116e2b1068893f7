import Crosscheck.FileTree
import Crosscheck.Template.Store
import Crosscheck.Yaml.Record

/-!
# Crosscheck.Template.Manifest

**Manifests: lists of template files.** A manifest is a YAML record. The text of a template is in a
file of its own, whose path is relative to the directory of the manifest.
-/

namespace Crosscheck

/-- What a manifest says about a template. -/
structure ManifestEntry where
  /-- The identifier. -/
  id : String
  /-- The file of the text. -/
  file : String
  /-- The entry point. -/
  entry : String
  /-- The class of operations the template hosts. -/
  shape : OperationClass
  deriving DecidableEq, Repr

/-- A list of templates. -/
structure Manifest where
  /-- The version of the list. -/
  version : String
  /-- The templates. -/
  templates : List ManifestEntry
  deriving DecidableEq, Repr

namespace ManifestEntry

/-- The entry of a YAML value. -/
def ofYaml? (v : Yaml.Value) : Option ManifestEntry := do
  let [id, file, entry, shape] ← v.record? true ["id", "file", "entry", "class"] | none
  some ⟨← (← id).string?, ← (← file).string?, ← (← entry).string?,
    ← (← shape).choice? OperationClass.ofName?⟩

/-- The template with the text of its file. -/
def toTemplate (e : ManifestEntry) (text : String) : Template := ⟨e.id, e.entry, e.shape, text⟩

end ManifestEntry

namespace Manifest

/-- The manifest of a YAML value. -/
def ofYaml? (v : Yaml.Value) : Option Manifest := do
  let [version, templates] ← v.record? true ["version", "templates"] | none
  some ⟨← (← version).string?,
    ← Yaml.Value.withDefault [] (·.list? ManifestEntry.ofYaml?) templates⟩

/-- The manifest of a text. -/
def ofText (text : String) : Except CheckError Manifest :=
  match (Yaml.Value.ofText? text).bind ofYaml? with
  | some m => .ok m
  | none => .error (.invalidYaml "not a template manifest")

end Manifest

variable {m : Type → Type} [Monad m]

/-- The text of a file, which has to be there. -/
def readText (read? : String → m (Option String)) (path : String) :
    ExceptT CheckError m String := do
  match ← read? path with
  | some text => return text
  | none => throw (.unreadableInput path)

/-- The templates that a manifest file lists, in order. -/
def Manifest.load (read? : String → m (Option String)) (path : String) :
    ExceptT CheckError m (List Template) := do
  let manifest ← ExceptT.mk (pure (Manifest.ofText (← readText read? path)))
  manifest.templates.mapM fun e => do
    return e.toTemplate (← readText read? (pathIn (directoryOf path) e.file))

/-- The store of the templates that a manifest file lists. -/
def TemplateStore.load (read? : String → m (Option String)) (path : String) :
    ExceptT CheckError m TemplateStore := do
  ExceptT.mk (pure (TemplateStore.ofTemplates (← Manifest.load read? path)))

end Crosscheck
