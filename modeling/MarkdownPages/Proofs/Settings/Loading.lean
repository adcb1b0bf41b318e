import MarkdownPages.Proofs.Settings.Checking
import MarkdownPages.Proofs.Site.Package

/-!
# Settings that are loaded

Settings are loaded in one of three ways: from a file that is named, from a file that is found, or
from nowhere, and each of them with or without settings from the command line in their place. Not
every way ends with a check. Still all of them end with settings that a check would accept: a file
is checked when it is read, the standard settings are acceptable without a check, and what the
command line changes is checked again.

Acceptable settings put the pages into a package that is a qualified name, so the directories of a
page are names of directories, and no page gets out of the output directory.

## Main definitions

* `Settings.Origin` — settings before those from the command line
* `Overrides.Replaces` — settings from the command line in place of others

## Main results

* `Settings.isQualifiedName_basePackage` — the package of the pages is a qualified name
* `Settings.acceptable_of_load` — settings that are loaded are acceptable
* `Settings.load_eq_ok` — where settings that are loaded come from, and what they are good for
-/

namespace MarkdownPages

namespace Settings

/-! ### The package of the pages -/

variable {s : Settings}

theorem Acceptable.group_ne_empty (h : s.Acceptable) : s.group ≠ "" := fun hempty =>
  absurd (hempty ▸ h.group) (by decide)

/-- The package of the pages is resolved like any name that is given relative to the group. -/
theorem basePackage_eq_resolveShortcut (h : s.group ≠ "") :
    s.basePackage = Kotlin.resolveShortcut s.group s.pagesPackage := by
  have hgroup : s.group.isEmpty = false := by simpa using h
  rw [basePackage, Kotlin.resolveShortcut, hgroup]
  rfl

/-- The package of the pages is a qualified name. -/
theorem isQualifiedName_basePackage (h : s.Acceptable) :
    Kotlin.isQualifiedName s.basePackage.toList = true := by
  rw [basePackage_eq_resolveShortcut h.group_ne_empty]
  exact Kotlin.isQualifiedName_resolveShortcut h.group h.pagesPackage

/-! ### Where settings come from -/

/-- The settings that hold before those from the command line: what a file states that is named or
found, with its variables replaced, or else the standard settings of the working directory. -/
inductive Origin (fs : FileSystem) (environment : Environment) (path : Option Path) :
    Settings → Prop
  | file {file : Path} {text : String} {stated expanded : WrittenSettings}
      (hfile : path = some file ∨ path = none ∧ discover fs = some file)
      (hread : fs.read file = .ok text) (hstated : WrittenSettings.ofText? text = some stated)
      (hexpanded : stated.expanded environment = .ok expanded) :
      Origin fs environment path (ofWritten (file.parent?.getD ⟨"."⟩) (some file) expanded)
  | standard (hpath : path = none) (hdiscover : discover fs = none) :
      Origin fs environment path (standard (fs.workingPath?.getD ⟨""⟩))

end Settings

/-- Settings from the command line in place of those of a base, which gives all others. -/
structure Overrides.Replaces (o : Overrides) (base s : Settings) : Prop where
  group : s.group = o.group.getD base.group
  roots : s.roots = o.roots.getD base.roots
  outputDirectory : s.outputDirectory = o.outputDirectory.getD base.outputDirectory
  markdownArtifact : s.markdownArtifact = o.markdownArtifact.getD base.markdownArtifact
  generatedDirectory : s.generatedDirectory = base.generatedDirectory
  projectDirectory : s.projectDirectory = base.projectDirectory
  pagesPackage : s.pagesPackage = base.pagesPackage
  defaultRoot : s.defaultRoot = base.defaultRoot
  imports : s.imports = base.imports
  exclude : s.exclude = base.exclude
  features : s.features = base.features
  file : s.file = base.file

namespace Settings

theorem replaces_override (o : Overrides) (base : Settings) :
    o.Replaces base (base.override o) where
  group := rfl
  roots := rfl
  outputDirectory := rfl
  markdownArtifact := rfl
  generatedDirectory := rfl
  projectDirectory := rfl
  pagesPackage := rfl
  defaultRoot := rfl
  imports := rfl
  exclude := rfl
  features := rfl
  file := rfl

variable {fs : FileSystem} {environment : Environment} {path : Option Path} {s : Settings}

/-- A file gives the settings that it states, once a check has accepted them. -/
theorem ofFile_eq_ok {file : Path} : ofFile fs environment file = .ok s ↔
    ∃ text stated expanded, fs.read file = .ok text ∧ WrittenSettings.ofText? text = some stated ∧
      stated.expanded environment = .ok expanded ∧
      s = ofWritten (file.parent?.getD ⟨"."⟩) (some file) expanded ∧ s.Acceptable := by
  rw [ofFile, except_bind_eq_ok]
  simp only [except_mapError_eq_ok]
  constructor
  · rintro ⟨text, hread, h⟩
    cases hstated : WrittenSettings.ofText? text with
    | none =>
      rw [hstated] at h
      nomatch h
    | some stated =>
      rw [hstated] at h
      dsimp only at h
      obtain ⟨expanded, hexpanded, h⟩ := except_bind_eq_ok.mp h
      obtain ⟨⟨⟩, hcheck, h⟩ := except_bind_eq_ok.mp h
      obtain rfl := Except.ok.inj h
      exact ⟨text, stated, expanded, hread, hstated, hexpanded, rfl, (check_eq_ok_iff _).mp hcheck⟩
  · rintro ⟨text, stated, expanded, hread, hstated, hexpanded, rfl, h⟩
    refine ⟨text, hread, ?_⟩
    rw [hstated]
    exact except_bind_eq_ok.mpr ⟨expanded, hexpanded,
      except_bind_eq_ok.mpr ⟨(), (check_eq_ok_iff _).mpr h, rfl⟩⟩

/-- Settings are acceptable before the command line changes them. -/
theorem origin_of_loadUnchanged (h : loadUnchanged fs environment path = .ok s) :
    Origin fs environment path s ∧ s.Acceptable := by
  have hofFile : ∀ file, (path = some file ∨ path = none ∧ discover fs = some file) →
      ofFile fs environment file = .ok s → Origin fs environment path s ∧ s.Acceptable := by
    intro file hfile hload
    obtain ⟨text, stated, expanded, hread, hstated, hexpanded, rfl, hacceptable⟩ :=
      ofFile_eq_ok.mp hload
    exact ⟨.file hfile hread hstated hexpanded, hacceptable⟩
  unfold loadUnchanged at h
  cases path with
  | some file =>
    dsimp only at h
    by_cases hpresent : fs.present file = true
    · rw [if_pos hpresent] at h
      exact hofFile file (.inl rfl) h
    · rw [if_neg hpresent] at h
      nomatch h
  | none =>
    cases hdiscover : discover fs with
    | some file =>
      rw [hdiscover] at h
      exact hofFile file (.inr ⟨rfl, hdiscover⟩) h
    | none =>
      rw [hdiscover] at h
      obtain rfl := Except.ok.inj h
      exact ⟨.standard rfl hdiscover, acceptable_standard _⟩

/-- Settings that are loaded are acceptable, and come from a file or are the standard ones, but for
what the command line replaces. -/
theorem acceptable_of_load {overrides : Option Overrides}
    (h : load fs environment path overrides = .ok s) :
    s.Acceptable ∧
      ∃ base, Origin fs environment path base ∧ (overrides.getD {}).Replaces base s := by
  rw [load] at h
  obtain ⟨base, hbase, h⟩ := except_bind_eq_ok.mp h
  obtain ⟨horigin, hacceptable⟩ := origin_of_loadUnchanged hbase
  cases overrides with
  | none =>
    obtain rfl := Except.ok.inj h
    exact ⟨hacceptable, base, horigin, replaces_override {} base⟩
  | some overrides =>
    obtain ⟨⟨⟩, hcheck, h⟩ := except_bind_eq_ok.mp h
    obtain rfl := Except.ok.inj h
    exact ⟨(check_eq_ok_iff _).mp hcheck, base, horigin, replaces_override overrides base⟩

/-- **Loading.** Settings that are loaded pass the check, on every way of loading them. Those that
the command line does not replace are the ones of the file or the standard ones. The package of the
pages is the shortcut under the group, spelled by identifiers, which are directories on the way to
every page below the output directory. -/
theorem load_eq_ok (fs : FileSystem) (environment : Environment) (path : Option Path)
    (overrides : Option Overrides) (s : Settings)
    (h : load fs environment path overrides = .ok s) :
    s.check = .ok () ∧
    (∃ base, Origin fs environment path base ∧ (overrides.getD {}).Replaces base s) ∧
    s.basePackage = Kotlin.resolveShortcut s.group s.pagesPackage ∧
    ∃ segments : List String, segments ≠ [] ∧
      (∀ segment ∈ segments, Kotlin.isIdentifier segment.toList = true) ∧
      s.basePackage = ".".intercalate segments ∧
      ∀ document, ∃ (directories : List String) (file : String),
        Site.Descends (Site.place document s.basePackage).output
          ((segments ++ directories).map .ofText) (.ofText file) := by
  obtain ⟨hacceptable, hbase⟩ := acceptable_of_load h
  have hname := isQualifiedName_basePackage hacceptable
  exact ⟨(check_eq_ok_iff s).mpr hacceptable, hbase,
    basePackage_eq_resolveShortcut hacceptable.group_ne_empty, Site.packageSegments s.basePackage,
    Site.packageSegments_ne_nil hname, fun _ => Site.isIdentifier_of_mem_packageSegments hname,
    (Site.intercalate_packageSegments hname).symm, Site.descends_place_of_isQualifiedName hname⟩

/-- A project with a settings file, which puts the pages into a part of the group that the
environment names. -/
private def project : FileSystem where
  top := .directory [("site", .directory [("docs", .directory []),
    ("mdkt.toml", .file (.text "[markdown]\npages_package = \".$\x7bPART\x7d\"\n"))])]
  working := ["site", "docs"]

/-- The settings of the project, for a group from the command line. -/
private def projectSettings (group : String) : Except SettingsError Settings :=
  load project [("PART", "web.pages")] none (some { group := some group })

/-- The settings of the project are found from a directory below it. -/
theorem load_eq_ok_of_project :
    ∃ s, projectSettings "com.example" = .ok s ∧ s.check = .ok () ∧
      s.basePackage = Kotlin.resolveShortcut s.group s.pagesPackage ∧
      s.basePackage = "com.example.web.pages" := by
  have hpackage : (projectSettings "com.example").toOption.map basePackage =
      some "com.example.web.pages" := by
    decide +kernel
  cases hload : projectSettings "com.example" with
  | error e =>
    rw [hload] at hpackage
    nomatch hpackage
  | ok s =>
    rw [hload] at hpackage
    obtain ⟨hcheck, -, hshortcut, -⟩ := load_eq_ok project [("PART", "web.pages")] none
      (some { group := some "com.example" }) s hload
    exact ⟨s, rfl, hcheck, hshortcut, Option.some.inj hpackage⟩

end Settings

end MarkdownPages
