import MarkdownPages.Proofs.Conversion.Phases
import MarkdownPages.Proofs.Page.Cached
import MarkdownPages.Proofs.Site.Output

/-!
# Rendering and writing pages

Once the output directory is renewed, pages are rendered and written in turn. A page is written
below the output directory whatever its document is called, since its path descends and no link
stands there. So nothing changes elsewhere, and if no two pages go to one file, every page stays as
it was written.

## Main definitions

* `FileSystem.LeadsToPlain` — a path leads to a directory without links below
* `Conversion.Turn`, `Conversion.Takes` — a page in turn, and all of them
* `Conversion.Turn.StandsAt` — where a page is written

## Main results

* `Conversion.builds_writeAll` — pages are written below the output directory only
* `Conversion.takes_of_writeAll` — the turns of a successful run, and its summary
* `Conversion.Takes.files_of_bare` — the files below the output directory after all turns
-/

namespace MarkdownPages

open FileAction

namespace FileSystem

/-- A path leads to a directory without links below. -/
structure LeadsToPlain (fs : FileSystem) (p : Path) (place : List RawText) : Prop
    extends LinkFree fs place where
  canonical : fs.canonical p = .ok place

variable {fs after : FileSystem} {p : Path} {place : List RawText}

theorem LeadsToBare.leadsToPlain (h : fs.LeadsToBare p place) : fs.LeadsToPlain p place :=
  ⟨⟨h.directory, fun rest target hlink => by cases h.bare rest _ hlink⟩, h.canonical⟩

theorem Builds.leadsToPlain (h : fs.Builds place after) (hp : fs.LeadsToPlain p place) :
    after.LeadsToPlain p place :=
  ⟨h.linkFree hp.toLinkFree, h.canonical_mono hp.canonical⟩

end FileSystem

open FileSystem

namespace Conversion

/-! ### One page -/

theorem outcome_writePage {fs : FileSystem} (hfs : fs.isProper = true) {out output : Path}
    {place directories : List RawText} {file : RawText} (hout : fs.LeadsToPlain out place)
    (hdescends : Site.Descends output directories file) (source : String) :
    fs.Builds place (outcome (writePage (out.join output) source) fs).2 ∧
      ((outcome (writePage (out.join output) source) fs).1 = .ok () →
        (outcome (writePage (out.join output) source) fs).2.canonical (out.join output) =
          .ok (place ++ directories ++ [file]) ∧
        ∀ q content,
          (outcome (writePage (out.join output) source) fs).2.top.item? q =
            some (.file content) ↔
          if q = place ++ directories ++ [file] then content = .text source
          else fs.top.item? q = some (.file content)) := by
  obtain ⟨⟨n, hn, hleads⟩, -⟩ := leads_route_of_canonical hout.canonical
  have hstart : fs.start (out.join output) = fs.start out := by
    rw [start, start, Path.isAbsolute_join hdescends.isAbsolute]
  have hroute : (out.join output).route = out.route ++ (directories ++ [file]).map .into := by
    rw [Path.route_join hdescends.isAbsolute, hdescends.route]
  have hlast : (out.join output).steps.getLast? ≠ some .here := by
    rw [Path.getLast?_steps_join hdescends.isAbsolute]
    exact hdescends.getLast?_steps
  have hstore := outcome_store hfs hroute hn (hstart ▸ hleads) hout.toLinkFree hlast source
  have hwrite := outcome_attempt (.write (out.join output)) (store (out.join output) source) fs
  have hpage : writePage (out.join output) source =
      attempt (.write (out.join output)) (store (out.join output) source) := rfl
  rw [hpage, hwrite]
  cases hresult : outcome (store (out.join output) source) fs with
  | mk result after =>
    rw [hresult] at hstore
    cases result with
    | error fault => exact ⟨hstore.1, fun h => by cases h⟩
    | ok _ => exact ⟨hstore.1, fun _ => hstore.2 rfl⟩

/-! ### All pages -/

variable (c : Conversion)

/-- Where the page of a document is written. -/
def output (page : PlannedPage) : Path := c.outputDirectory.join page.placement.output

/-- The generated file of a page has a path that descends. -/
def Descends (page : PlannedPage) : Prop :=
  ∃ directories file, Site.Descends page.placement.output directories file

/-- **Writing pages.** Whether all pages are written or not, nothing changes but below the output
directory, where no link is made. -/
theorem builds_writeAll {fs : FileSystem} (hfs : fs.isProper = true) {place : List RawText}
    (hout : fs.LeadsToPlain c.outputDirectory place) (cache : Cache) (summary : Summary)
    {trees : List (PlannedPage × Node)} (hdescends : ∀ entry ∈ trees, Descends entry.1) :
    fs.Builds place (outcome (c.writeAll cache summary trees) fs).2 := by
  induction trees generalizing fs cache summary with
  | nil => exact .refl fs place
  | cons head rest ih =>
    obtain ⟨page, tree⟩ := head
    obtain ⟨hpage, hrest⟩ := List.forall_mem_cons.mp hdescends
    obtain ⟨directories, file, hpage⟩ := hpage
    rw [writeAll, outcome_bind, outcome_get]
    dsimp only
    rw [outcome_bind]
    have hbuilds :=
      (outcome_writePage hfs hout hpage (c.renderPage fs cache page tree).1.source).1
    cases hwrite : outcome (writePage (c.outputDirectory.join page.placement.output)
        (c.renderPage fs cache page tree).1.source) fs with
    | mk result middle =>
      rw [hwrite] at hbuilds
      cases result with
      | error fault => exact hbuilds
      | ok _ => exact hbuilds.trans (ih (hbuilds.proper hfs) (hbuilds.leadsToPlain hout) _ _ hrest)

/-- A page that is rendered and written, with the file system and the cache as they are then. -/
structure Turn where
  page : PlannedPage
  tree : Node
  files : FileSystem
  cache : Cache

/-- The page that is rendered in a turn, from the tree of its document and in its own context. -/
def Turn.rendered (turn : Turn) : Page :=
  (turn.cache.page turn.files turn.tree (c.context turn.page)).1

/-- The cache that a turn leaves. -/
def Turn.left (turn : Turn) : Cache :=
  (turn.cache.page turn.files turn.tree (c.context turn.page)).2.2

/-- How a turn is told of. -/
def Turn.generated (turn : Turn) : GeneratedFile := ⟨turn.page.path, c.output turn.page⟩

theorem Turn.renderPage_eq (turn : Turn) :
    c.renderPage turn.files turn.cache turn.page turn.tree = (turn.rendered c, turn.left c) :=
  Cache.renderPage_eq c turn.files turn.cache turn.page turn.tree

/-- Pages are rendered and written in turn. The file system and the cache that one turn leaves are
those of the next. -/
inductive Takes : FileSystem → Cache → List Turn → FileSystem → Prop
  | done (fs : FileSystem) (cache : Cache) : Takes fs cache [] fs
  | turn {turn : Turn} {middle after : FileSystem} {rest : List Turn}
      (written : outcome (writePage (c.output turn.page) (turn.rendered c).source) turn.files =
        (.ok (), middle))
      (next : Takes middle (turn.left c) rest after) :
      Takes turn.files turn.cache (turn :: rest) after

/-- **Turns.** If all pages are written, the summary tells of their turns in order. -/
theorem takes_of_writeAll {fs after : FileSystem} {cache : Cache} {summary done : Summary}
    {trees : List (PlannedPage × Node)}
    (h : outcome (c.writeAll cache summary trees) fs = (.ok done, after)) :
    ∃ turns, turns.map (fun turn => (turn.page, turn.tree)) = trees ∧
      c.Takes fs cache turns after ∧
      done.files = summary.files ++ turns.map (Turn.generated c) ∧
      done.warnings = summary.warnings ++ turns.flatMap fun turn => (turn.rendered c).warnings := by
  induction trees generalizing fs cache summary with
  | nil =>
    obtain ⟨hdone, rfl⟩ := Prod.mk.inj h
    obtain rfl := Except.ok.inj hdone
    exact ⟨[], rfl, .done fs cache, by simp, by simp⟩
  | cons head rest ih =>
    obtain ⟨page, tree⟩ := head
    let turn : Turn := ⟨page, tree, fs, cache⟩
    rw [writeAll, outcome_bind, outcome_get] at h
    dsimp only at h
    rw [turn.renderPage_eq c, outcome_bind] at h
    cases hwrite : outcome (writePage (c.output turn.page) (turn.rendered c).source) fs with
    | mk result middle =>
      rw [← output, hwrite] at h
      cases result with
      | error fault => cases h
      | ok _ =>
        obtain ⟨turns, rfl, htakes, hfiles, hwarnings⟩ := ih h
        refine ⟨turn :: turns, rfl, .turn hwrite htakes, ?_, ?_⟩
        · rw [hfiles, List.append_assoc]
          rfl
        · rw [hwarnings, List.append_assoc]
          rfl

/-- The place, below the output directory, to which a page is written. -/
def Turn.StandsAt (turn : Turn) (place q : List RawText) : Prop :=
  ∃ directories file, Site.Descends turn.page.placement.output directories file ∧
    q = place ++ directories ++ [file]

theorem Turn.StandsAt.eq_of_descends {turn : Turn} {place q directories : List RawText}
    {file : RawText} (h : turn.StandsAt place q)
    (hpage : Site.Descends turn.page.placement.output directories file) :
    q = place ++ directories ++ [file] := by
  obtain ⟨directories', file', hdescends, rfl⟩ := h
  have hnames := (List.map_inj_right fun _ _ => Step.into.inj).mp
    (hpage.steps.symm.trans hdescends.steps)
  rw [List.append_assoc, List.append_assoc, hnames]

theorem Turn.StandsAt.output_eq {turn other : Turn} {place q : List RawText}
    (h : turn.StandsAt place q) (h' : other.StandsAt place q) :
    turn.page.placement.output = other.page.placement.output := by
  obtain ⟨directories, file, hdescends, rfl⟩ := h
  obtain ⟨directories', file', hdescends', heq⟩ := h'
  rw [List.append_assoc, List.append_assoc] at heq
  exact hdescends.eq_of_isPrefix hdescends' (List.append_cancel_left heq ▸ List.prefix_rfl)

namespace Takes

variable {c} {fs after : FileSystem} {cache : Cache} {turns : List Turn} {place : List RawText}

/-- A page is written below the output directory, and nothing else is. -/
private theorem builds_of_written {middle : FileSystem} {page : PlannedPage} {source : String}
    {directories : List RawText} {file : RawText} (hfs : fs.isProper = true)
    (hout : fs.LeadsToPlain c.outputDirectory place)
    (hpage : Site.Descends page.placement.output directories file)
    (h : outcome (writePage (c.output page) source) fs = (.ok (), middle)) :
    fs.Builds place middle ∧
      middle.canonical (c.output page) = .ok (place ++ directories ++ [file]) ∧
      ∀ q content, middle.top.item? q = some (.file content) ↔
        if q = place ++ directories ++ [file] then content = .text source
        else fs.top.item? q = some (.file content) := by
  obtain ⟨hbuilds, hok⟩ := outcome_writePage hfs hout hpage source
  rw [← output, h] at hbuilds hok
  exact ⟨hbuilds, hok rfl⟩

theorem builds (h : c.Takes fs cache turns after) (hfs : fs.isProper = true)
    (hout : fs.LeadsToPlain c.outputDirectory place)
    (hdescends : ∀ turn ∈ turns, Descends turn.page) : fs.Builds place after := by
  induction h with
  | done fs => exact .refl fs place
  | turn written next ih =>
    obtain ⟨⟨directories, file, hpage⟩, hrest⟩ := List.forall_mem_cons.mp hdescends
    obtain ⟨hbuilds, -⟩ := builds_of_written hfs hout hpage written
    exact hbuilds.trans (ih (hbuilds.proper hfs) (hbuilds.leadsToPlain hout) hrest)

/-- A file that is there after all turns was there before them or is the page of one of them. -/
theorem stands_or_item?_eq (h : c.Takes fs cache turns after) (hfs : fs.isProper = true)
    (hout : fs.LeadsToPlain c.outputDirectory place)
    (hdescends : ∀ turn ∈ turns, Descends turn.page) {q : List RawText} {content : Content}
    (hq : after.top.item? q = some (.file content)) :
    (∃ turn ∈ turns, turn.StandsAt place q) ∨ fs.top.item? q = some (.file content) := by
  induction h with
  | done fs => exact .inr hq
  | turn written next ih =>
    obtain ⟨⟨directories, file, hpage⟩, hrest⟩ := List.forall_mem_cons.mp hdescends
    obtain ⟨hbuilds, -, hfiles⟩ := builds_of_written hfs hout hpage written
    rcases ih (hbuilds.proper hfs) (hbuilds.leadsToPlain hout) hrest hq with
      ⟨turn, hturn, hstands⟩ | hmiddle
    · exact .inl ⟨turn, List.mem_cons_of_mem _ hturn, hstands⟩
    · rw [hfiles] at hmiddle
      split at hmiddle
      · rename_i heq
        exact .inl ⟨_, List.mem_cons_self, directories, file, hpage, heq⟩
      · exact .inr hmiddle

/-- A file to which no page goes stays as it is. -/
theorem item?_eq_of_not_stands (h : c.Takes fs cache turns after) (hfs : fs.isProper = true)
    (hout : fs.LeadsToPlain c.outputDirectory place)
    (hdescends : ∀ turn ∈ turns, Descends turn.page) {q : List RawText} {content : Content}
    (hq : fs.top.item? q = some (.file content))
    (hapart : ∀ turn ∈ turns, ¬ turn.StandsAt place q) :
    after.top.item? q = some (.file content) := by
  obtain ⟨item, hitem, hshape⟩ := (h.builds hfs hout hdescends).keeps _ _ hq
  cases item with
  | directory | link => cases hshape
  | file kept =>
    rcases h.stands_or_item?_eq hfs hout hdescends hitem with ⟨turn, hturn, hstands⟩ | hold
    · exact absurd hstands (hapart turn hturn)
    · exact hitem.trans (hold.symm.trans hq)

/-- **The pages of all turns.** Every page stands where it was written. -/
theorem item?_of_stands (h : c.Takes fs cache turns after) (hfs : fs.isProper = true)
    (hout : fs.LeadsToPlain c.outputDirectory place)
    (hdescends : ∀ turn ∈ turns, Descends turn.page)
    (hapart : turns.Pairwise fun turn later => turn.page.sharesOutput later.page = false) :
    ∀ turn ∈ turns, ∀ q, turn.StandsAt place q →
      after.canonical (c.output turn.page) = .ok q ∧
        after.top.item? q = some (.file (.text (turn.rendered c).source)) := by
  induction h with
  | done fs cache => simp
  | turn written next ih =>
    obtain ⟨⟨directories, file, hpage⟩, hrest⟩ := List.forall_mem_cons.mp hdescends
    obtain ⟨hfirst, hothers⟩ := List.pairwise_cons.mp hapart
    obtain ⟨hbuilds, hcanonical, hfiles⟩ := builds_of_written hfs hout hpage written
    have hmiddle := hbuilds.proper hfs
    have hplain := hbuilds.leadsToPlain hout
    refine List.forall_mem_cons.mpr ⟨fun q hq => ?_, ih hmiddle hplain hrest hothers⟩
    obtain rfl := hq.eq_of_descends hpage
    refine ⟨(next.builds hmiddle hplain hrest).canonical_mono hcanonical, ?_⟩
    refine next.item?_eq_of_not_stands hmiddle hplain hrest ((hfiles _ _).mpr ?_)
      fun turn hturn hstands => ?_
    · rw [if_pos rfl]
    · have hshares := hfirst turn hturn
      rw [PlannedPage.sharesOutput, hq.output_eq hstands] at hshares
      simp [Path.same] at hshares

/-- **The files below a renewed directory.** They are the pages of all turns. -/
theorem files_of_bare (h : c.Takes fs cache turns after) (hfs : fs.isProper = true)
    (hbare : fs.LeadsToBare c.outputDirectory place)
    (hdescends : ∀ turn ∈ turns, Descends turn.page)
    (hapart : turns.Pairwise fun turn later => turn.page.sharesOutput later.page = false) :
    (∀ turn ∈ turns, ∃ q, place <+: q ∧ after.canonical (c.output turn.page) = .ok q ∧
      after.top.item? q = some (.file (.text (turn.rendered c).source))) ∧
      ∀ q, place <+: q → ((∃ content, after.top.item? q = some (.file content)) ↔
        ∃ turn ∈ turns, after.canonical (c.output turn.page) = .ok q) := by
  have hstand := h.item?_of_stands hfs hbare.leadsToPlain hdescends hapart
  have hstands : ∀ turn ∈ turns, ∃ q, place <+: q ∧ after.canonical (c.output turn.page) = .ok q ∧
      after.top.item? q = some (.file (.text (turn.rendered c).source)) := by
    intro turn hturn
    obtain ⟨directories, file, hpage⟩ := hdescends turn hturn
    exact ⟨_, ⟨directories ++ [file], by simp⟩, hstand turn hturn _ ⟨directories, file, hpage, rfl⟩⟩
  refine ⟨hstands, fun q hq => ⟨?_, ?_⟩⟩
  · rintro ⟨content, hcontent⟩
    rcases h.stands_or_item?_eq hfs hbare.leadsToPlain hdescends hcontent with
      ⟨turn, hturn, hturnStands⟩ | hold
    · exact ⟨turn, hturn, (hstand turn hturn q hturnStands).1⟩
    · obtain ⟨rest, rfl⟩ := hq
      cases hbare.bare rest _ hold
  · rintro ⟨turn, hturn, hcanonical⟩
    obtain ⟨q', -, hcanonical', hitem⟩ := hstands turn hturn
    obtain rfl := Except.ok.inj (hcanonical'.symm.trans hcanonical)
    exact ⟨_, hitem⟩

end Takes

end Conversion

end MarkdownPages
