import TemplateLint.CommandLine.Run
import TemplateLint.Proofs.Config.Keywise
import TemplateLint.Proofs.Except

/-!
What loading a document comes to, for every text in it. All that is wrong with the text or with the
settings in it is a fault of the configuration, which names the document and is shown to the caller.
One place has no check: the two tables around the settings.
-/

namespace TemplateLint

open Discovery Table

namespace Config

inductive Located (site : Site) : Option Path → Path → Prop where
  | given (path : Path) : Located site (some path) path
  | nearest {path : Path} (found : find? site (.ofString ".") = .ok (some path)) : Located site none path

inductive Placed (document : Table) : Table → Prop where
  | noTool (absent : get? document "tool" = none) : Placed document []
  | noSettings {tool : Table} (around : get? document "tool" = some (.table tool))
      (absent : get? tool "makolint" = none) : Placed document []
  | settings {tool settings : Table} (around : get? document "tool" = some (.table tool))
      (here : get? tool "makolint" = some (.table settings)) : Placed document settings

/-- A value that stands in the place of one of the two tables. -/
inductive Misplaced (document : Table) : Value → Prop where
  | tool {v : Value} (here : get? document "tool" = some v) (other : ∀ t, v ≠ .table t) :
      Misplaced document v
  | settings {tool : Table} {v : Value} (around : get? document "tool" = some (.table tool))
      (here : get? tool "makolint" = some v) (other : ∀ t, v ≠ .table t) : Misplaced document v

def MisplacedIn (text : String) (v : Value) : Prop :=
  ∃ document, Toml.read? text = some document ∧ Misplaced document v

inductive Faulty (text : String) : ConfigFault → Prop where
  | notToml (unread : Toml.read? text = none) : Faulty text .notToml
  | problems {document settings : Table} {found : List Problem} (read : Toml.read? text = some document)
      (placed : Placed document settings) (some_found : found ≠ [])
      (all : ∀ p, p ∈ found ↔ Settings.Wrong settings p) : Faulty text (.problems found)

variable {site : Site} {given : Option Path} {path : Path} {document settings : Table} {v : Value}
  {text : String} {bytes : List UInt8}

theorem load_of_located (located : Located site given path) : load site given = loadFile site path := by
  cases located with
  | given path => rfl
  | nearest found =>
    rw [load, found]
    rfl

theorem settingsIn_of_placed (h : Placed document settings) : settingsIn document = .ok settings := by
  have nothing : get? [] "makolint" = none := rfl
  cases h with
  | noTool absent => simp [settingsIn, subtable, absent, nothing]
  | noSettings around absent =>
    simp [settingsIn, subtable, around, absent]
  | settings around here =>
    simp [settingsIn, subtable, around, here]

theorem settingsIn_of_misplaced (h : Misplaced document v) : settingsIn document = .error (.notTable v) := by
  cases h with
  | tool here other =>
    cases v with
    | table t => exact absurd rfl (other t)
    | _ => simp [settingsIn, subtable, here]
  | settings around here other =>
    cases v with
    | table t => exact absurd rfl (other t)
    | _ => simp [settingsIn, subtable, around, here]

theorem placed_or_misplaced (document : Table) :
    (∃ settings, Placed document settings) ∨ ∃ v, Misplaced document v := by
  have table_or_other (v : Value) : (∃ t, v = .table t) ∨ ∀ t, v ≠ .table t :=
    (em _).imp_right not_exists.mp
  cases around : get? document "tool" with
  | none => exact .inl ⟨[], .noTool around⟩
  | some v =>
    obtain ⟨tool, rfl⟩ | other := table_or_other v
    · cases here : get? tool "makolint" with
      | none => exact .inl ⟨[], .noSettings around here⟩
      | some w =>
        obtain ⟨settings, rfl⟩ | other := table_or_other w
        · exact .inl ⟨settings, .settings around here⟩
        · exact .inr ⟨w, .settings around here other⟩
    · exact .inr ⟨v, .tool around other⟩

section

variable (located : Located site given path)
  (readable : FileTree.bytes site.root site.cwd path = .ok bytes)
  (encoded : Text.decodeUtf8 bytes = .ok text)

include located readable encoded

theorem load_of_unread (unread : Toml.read? text = none) :
    load site given = .error (.config .notToml (some path)) := by
  rw [load_of_located located, loadFile, readable]
  simp only [encoded, unread]

theorem load_of_read (read : Toml.read? text = some document) :
    load site given = settingsIn document >>= fun settings => Settings.toConfig settings (some path) := by
  rw [load_of_located located, loadFile, readable]
  simp only [encoded, read]

theorem load_of_placed (read : Toml.read? text = some document) (placed : Placed document settings) :
    load site given = Settings.toConfig settings (some path) := by
  rw [load_of_read located readable encoded read, settingsIn_of_placed placed]
  rfl

theorem load_of_misplaced (h : MisplacedIn text v) : load site given = .error (.notTable v) := by
  obtain ⟨document, read, here⟩ := h
  rw [load_of_read located readable encoded read, settingsIn_of_misplaced here]
  rfl

theorem load_of_not_misplaced (h : ∀ v, ¬ MisplacedIn text v) :
    (∃ c, load site given = .ok c ∧ c.path = some path) ∨
      ∃ fault, Faulty text fault ∧ load site given = .error (.config fault (some path)) := by
  cases read : Toml.read? text with
  | none => exact .inr ⟨_, .notToml read, load_of_unread located readable encoded read⟩
  | some document =>
    obtain ⟨settings, placed⟩ | ⟨v, here⟩ := placed_or_misplaced document
    · rw [load_of_placed located readable encoded read placed]
      by_cases good : Settings.problems settings = []
      · exact .inl ⟨_, Settings.toConfig_of_nil good, rfl⟩
      · exact .inr ⟨_, .problems read placed good fun p => Settings.mem_problems_iff,
          Settings.toConfig_of_ne_nil good⟩
    · exact absurd ⟨document, read, here⟩ (h v)

end

end Config

namespace CommandLine

open Config

def Calls (parser : Parser) (site : Site) (words : List String) (given : Option Path) : Prop :=
  ∃ s request, parser site words = .ok (s, request) ∧ s.config = given

def Output.refused (fault : ConfigFault) (path : Path) : Output :=
  ⟨"", line ("Error: " ++ fault.message) ++ line ("  in: " ++ path.toText), 1, none⟩

variable {parser : Parser} {reader : Template.Reader} {site : Site} {given : Option Path}
  {path : Path} {words : List String} {v : Value} {text : String} {bytes : List UInt8}
  {analyzer : Analyzer} {rcfile : Option String}

theorem run_of_fault {fault : ConfigFault} (calls : Calls parser site words given)
    (h : load site given = .error (.config fault (some path))) :
    run parser reader site analyzer rcfile words = .refused fault path := by
  obtain ⟨s, request, parsed, rfl⟩ := calls
  rw [run, parsed]
  simp only [h]
  rfl

theorem run_of_notTable (calls : Calls parser site words given)
    (h : load site given = .error (.notTable v)) :
    run parser reader site analyzer rcfile words = .failed (.notTable v) := by
  obtain ⟨s, request, parsed, rfl⟩ := calls
  rw [run, parsed]
  simp only [h]

/-- A call never ends without a message because of what is in the document, except where something
other than a table stands around the settings: then it ends with the failure of that access. -/
theorem loading_fails_with_fault (located : Located site given path)
    (readable : FileTree.bytes site.root site.cwd path = .ok bytes)
    (encoded : Text.decodeUtf8 bytes = .ok text) :
    ((∀ v, ¬ MisplacedIn text v) →
      (∃ c, load site given = .ok c ∧ c.path = some path) ∨
        ∃ fault, Faulty text fault ∧ load site given = .error (.config fault (some path)) ∧
          ∀ parser reader analyzer rcfile words, Calls parser site words given →
            run parser reader site analyzer rcfile words = .refused fault path) ∧
      ∀ v, MisplacedIn text v →
        load site given = .error (.notTable v) ∧
          ∀ parser reader analyzer rcfile words, Calls parser site words given →
            run parser reader site analyzer rcfile words = .failed (.notTable v) := by
  constructor
  · intro h
    rcases load_of_not_misplaced located readable encoded h with loaded | ⟨fault, fits, failed⟩
    · exact .inl loaded
    · exact .inr ⟨fault, fits, failed, fun _ _ _ _ _ calls => run_of_fault calls failed⟩
  · intro v h
    have failed := load_of_misplaced located readable encoded h
    exact ⟨failed, fun _ _ _ _ _ calls => run_of_notTable calls failed⟩

def documentPath : Path := .absolute ["pyproject.toml"]

def siteOf (bytes : List UInt8) : Site where
  root := .directory [("pyproject.toml", .file bytes)]
  cwd := []

theorem located_siteOf (bytes : List UInt8) : Located (siteOf bytes) none documentPath := by
  have here : Path.ofString "." = ⟨.relative, []⟩ := by decide
  apply Located.nearest
  have top : resolve (siteOf bytes) ⟨.relative, []⟩ = .ok (.absolute []) := resolve_top _
  have regular : FileTree.isFile (siteOf bytes).root [] documentPath = true := by
    simp [FileTree.isFile, FileTree.entry?, FileTree.follow, siteOf, documentPath]
  have named : (Path.absolute []).child documentName = documentPath := rfl
  simp [find?, here, top, named, regular]

theorem bytes_siteOf (bytes : List UInt8) :
    FileTree.bytes (siteOf bytes).root (siteOf bytes).cwd documentPath = .ok bytes := by
  simp [FileTree.bytes, FileTree.entry?, documentPath, siteOf, FileTree.follow]

def configParser : Parser := fun _ _ => .ok (⟨none, false, false⟩, .ok (.config false false))

theorem calls_configParser (site : Site) (words : List String) :
    Calls configParser site words none :=
  ⟨_, _, rfl, rfl⟩

def numberShown : String := "[tool.makolint]\nshow_source = 3\n"

def isNumberShown : Table → Bool
  | [("tool", .table [("makolint", .table [("show_source", .int 3)])])] => true
  | _ => false

theorem read_numberShown : Toml.read? numberShown =
    some [("tool", .table [("makolint", .table [("show_source", .int 3)])])] := by
  have found : (Toml.read? numberShown).any isNumberShown = true := by decide +kernel
  obtain ⟨document, read, shown⟩ := (Option.any_eq_true _ _).mp found
  unfold isNumberShown at shown
  split at shown
  · exact read
  · cases shown

theorem loading_fails_with_fault_of_numberShown :
    ∃ site, Located site none documentPath ∧
      FileTree.bytes site.root site.cwd documentPath = .ok (Text.encodeUtf8 numberShown) ∧
      Text.decodeUtf8 (Text.encodeUtf8 numberShown) = .ok numberShown ∧
      (∀ v, ¬ MisplacedIn numberShown v) ∧
      ∀ reader analyzer rcfile, run configParser reader site analyzer rcfile ["config"] =
        .refused (.problems [.showSourceNotBool]) documentPath := by
  have located := located_siteOf (Text.encodeUtf8 numberShown)
  have readable := bytes_siteOf (Text.encodeUtf8 numberShown)
  have encoded : Text.decodeUtf8 (Text.encodeUtf8 numberShown) = .ok numberShown := by decide +kernel
  have inPlace : ∀ v, ¬ MisplacedIn numberShown v := by
    rintro v ⟨document, same, here⟩
    rw [read_numberShown] at same
    cases same
    cases here with
    | tool here other => cases here; exact other _ rfl
    | settings around here other => cases around; cases here; exact other _ rfl
  have shown : load (siteOf (Text.encodeUtf8 numberShown)) none =
      .error (.config (.problems [.showSourceNotBool]) (some documentPath)) :=
    load_of_placed located readable encoded read_numberShown (.settings rfl rfl)
  obtain ⟨c, loaded, -⟩ | ⟨fault, -, failed, refused⟩ :=
    (loading_fails_with_fault located readable encoded).1 inPlace
  · rw [shown] at loaded
    cases loaded
  · rw [shown] at failed
    cases failed
    exact ⟨_, located, readable, encoded, inPlace, fun _ _ _ =>
      refused _ _ _ _ _ (calls_configParser _ _)⟩

def numberTool : String := "tool = 3\n"

def isNumberTool : Table → Bool
  | [("tool", .int 3)] => true
  | _ => false

theorem read_numberTool : Toml.read? numberTool = some [("tool", .int 3)] := by
  have found : (Toml.read? numberTool).any isNumberTool = true := by decide +kernel
  obtain ⟨document, read, shown⟩ := (Option.any_eq_true _ _).mp found
  unfold isNumberTool at shown
  split at shown
  · exact read
  · cases shown

theorem loading_fails_without_fault :
    ∃ site, Located site none documentPath ∧
      FileTree.bytes site.root site.cwd documentPath = .ok (Text.encodeUtf8 numberTool) ∧
      Text.decodeUtf8 (Text.encodeUtf8 numberTool) = .ok numberTool ∧
      load site none = .error (.notTable (.int 3)) ∧
      ∀ reader analyzer rcfile, run configParser reader site analyzer rcfile ["config"] =
        ⟨"", "", 1, some (.notTable (.int 3))⟩ := by
  have located := located_siteOf (Text.encodeUtf8 numberTool)
  have readable := bytes_siteOf (Text.encodeUtf8 numberTool)
  have encoded : Text.decodeUtf8 (Text.encodeUtf8 numberTool) = .ok numberTool := by decide +kernel
  have here : MisplacedIn numberTool (.int 3) := ⟨_, read_numberTool, .tool rfl (by simp)⟩
  have failed := load_of_misplaced located readable encoded here
  exact ⟨_, located, readable, encoded, failed, fun _ _ _ =>
    run_of_notTable (calls_configParser _ _) failed⟩

end CommandLine

end TemplateLint
