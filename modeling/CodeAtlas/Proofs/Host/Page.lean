/-
CodeAtlas.Proofs.Host.Page — nothing from outside becomes markup of the page.

What is put into the index page comes from visitors, settings, sources and their
failures. It is put in at six places, between texts that depend only on whether
the view was filled (`Page.slots`), and at each of them it has no angle bracket.
So any two pages have the same angle brackets in the same order, and a page has the
two scripts of its fixed texts and no other.

The statements are about a host that draws in the default height, and about any
way to find a source: `Search` is a function, so it may give any slice and fail
with any message.

The operation is `index`.
-/
import CodeAtlas.Host.Respond
import CodeAtlas.Proofs.Text.Markup
import CodeAtlas.Proofs.View.Drawing

namespace CodeAtlas.Host

open Text (IsAngleFree isAngle occurrences)

/-! ## From a visit to its page -/

def Visit.page? (v : Visit Response) : Option (List Char) :=
  match v.outcome with
  | .ok (.content _ _ body) => some body
  | _ => none

/-- The visualizer is the drawing in its default height. -/
def DrawsByDefault (host : Host) : Prop :=
  ∀ settings, Settings.ofValue host.settings = .ok settings →
    (findVisualizer host settings).2 = .ok (.drawing Drawing.defaultHeight)

/-- A body comes from the second of two steps. -/
theorem Visit.page?_andThen {α : Type} {v : Visit α} {next : α → Visit Response}
    {body : List Char} (h : (v.andThen next).page? = some body) :
    ∃ a, (next a).page? = some body := by
  unfold Visit.andThen at h
  split at h
  · cases h
  · next a ha => exact ⟨a, h⟩

/-- A page shows a drawing of the view that was filled. -/
theorem page?_present {host : Host} {settings : Settings} {resource height : Value} {s : Shown}
    {body : List Char}
    (hdraws : (findVisualizer host settings).2 = .ok (.drawing height))
    (h : (present host settings resource s).page? = some body) :
    ∃ drawing, Drawing.draw host.levels.drawing height s.view = .ok drawing
      ∧ body = page (Page.name resource) s.success s.message.toList drawing := by
  unfold present at h
  rcases hfound : findVisualizer host settings with ⟨log, found⟩
  rw [hfound] at hdraws h
  dsimp only at hdraws
  subst hdraws
  dsimp only at h
  split at h
  · next drawing hdrawing =>
    cases h
    exact ⟨drawing, hdrawing, rfl⟩
  · cases h

/-- An index page shows a drawing of some view, with some resource and message. -/
theorem page?_indexFrom {host : Host} {search : Search} {query body : List Char}
    (hdraws : host.DrawsByDefault) (h : (host.indexFrom search query).page? = some body) :
    ∃ (resource : Value) (success : Bool) (message : String) (v : View) (drawing : List Char),
      Drawing.draw host.levels.drawing Drawing.defaultHeight v = .ok drawing
        ∧ body = page (Page.name resource) success message.toList drawing := by
  unfold indexFrom at h
  split at h
  · cases h
  · next settings hsettings =>
    split at h
    · cases h
    · obtain ⟨shown, hshown⟩ := Visit.page?_andThen h
      obtain ⟨drawing, hdrawing, hbody⟩ := page?_present (hdraws settings hsettings) hshown
      exact ⟨_, shown.success, shown.message, shown.view, drawing, hdrawing, hbody⟩

/-! ## Fixed texts -/

/-- The fixed texts from the line on the outcome on. -/
def Page.lastTexts : List (List Char) :=
  [Page.body.toList ++ Drawing.opening.toList,
    Drawing.styling.toList ++ Drawing.defaultHeight.text ++ Drawing.scripting.toList,
    Drawing.dashing.toList ++ Drawing.scriptData Drawing.dashed ++ Drawing.finding.toList,
    Drawing.sizing.toList ++ Drawing.defaultHeight.text ++ Drawing.closing.toList
      ++ Page.closing.toList]

def Page.texts (success : Bool) : List (List Char) :=
  [Page.opening.toList, Page.heading.toList, (Page.status success).toList] ++ Page.lastTexts

/-- The fixed texts of a page, each with what is put in behind it: the title twice,
the line on the outcome, the name of the container, the data and the name again. -/
def Page.slots (success : Bool) (title line name data : List Char) :
    List (List Char × List Char) :=
  (Page.texts success).zip [title, title, line, name, data, name, []]

/-- A page is its fixed texts with five texts put in, two of them twice. -/
theorem page_eq_fill (resource : List Char) (success : Bool) (message name data : List Char) :
    page resource success message (Drawing.fragment name Drawing.defaultHeight.text data)
      = Text.fill
          (Page.slots success (Text.escape resource) (Text.escape message) name data) := by
  unfold page Drawing.fragment Text.fill Page.slots Page.texts Page.lastTexts
  -- Not to be evaluated on the way.
  generalize Drawing.closing.toList = closing
  simp only [List.cons_append, List.nil_append, List.zip_cons_cons, List.zip_nil_left,
    List.flatMap_cons, List.flatMap_nil, List.append_assoc, List.append_nil]

theorem Page.map_fst_slots (success : Bool) (title line name data : List Char) :
    (Page.slots success title line name data).map Prod.fst = Page.texts success :=
  List.map_fst_zip (Nat.le_refl 7)

/-- Behind a fixed text stands one of the texts that are put in. -/
theorem Page.mem_slots {success : Bool} {title line name data : List Char}
    {slot : List Char × List Char} (h : slot ∈ Page.slots success title line name data) :
    slot.1 ∈ Page.texts success ∧ slot.2 ∈ [title, title, line, name, data, name, []] :=
  List.of_mem_zip h

/-- The angle brackets of a page do not depend on the outcome. -/
theorem Page.filter_isAngle_texts (success : Bool) :
    (Page.texts success).flatMap (List.filter isAngle)
      = (Page.texts true).flatMap (List.filter isAngle) := by
  have hstatus : (Page.status success).toList.filter isAngle
      = (Page.status true).toList.filter isAngle := by
    cases success with
    | true => rfl
    | false => decide +kernel
  simp only [Page.texts, List.flatMap_append, List.flatMap_cons, hstatus]

/-- The opening of a script, as far as it is the same for all, and the closing. -/
def Page.scriptMarks : List (List Char) := ["<script".toList, "</script>".toList]

/-- No text breaks off inside a mark, and each mark occurs a given number of times. -/
def Page.hasScripts (count : Nat) (texts : List (List Char)) : Bool :=
  Page.scriptMarks.all fun mark =>
    texts.all (Text.isClosedFor mark) && Text.occurrencesIn mark texts == count

/-- Marks are counted piece by piece. -/
theorem Page.hasScripts_append {m n : Nat} {front back : List (List Char)}
    (hfront : Page.hasScripts m front = true) (hback : Page.hasScripts n back = true) :
    Page.hasScripts (m + n) (front ++ back) = true := by
  simp only [Page.hasScripts, List.all_eq_true, Bool.and_eq_true, beq_iff_eq] at hfront hback ⊢
  intro mark hmark
  refine ⟨?_, ?_⟩
  · intro text htext
    rcases List.mem_append.mp htext with hmem | hmem
    · exact (hfront mark hmark).1 text hmem
    · exact (hback mark hmark).1 text hmem
  · rw [Text.occurrencesIn_append, (hfront mark hmark).2, (hback mark hmark).2]

-- The texts are long: they are taken apart into their literals, and those into
-- characters, before they are searched.
theorem Page.hasScripts_lastTexts : Page.hasScripts 1 Page.lastTexts = true := by
  delta Page.hasScripts Page.scriptMarks Page.lastTexts Page.body Page.closing Drawing.opening
    Drawing.styling Drawing.scripting Drawing.dashing Drawing.finding Drawing.sizing
    Drawing.closing
  simp only [String.toList_append, -String.reduceAppend, -String.reduceToList]
  repeat rw [String.toList_ofList]
  decide +kernel

/-- The fixed texts have two scripts, whatever the outcome. -/
theorem Page.hasScripts_texts (success : Bool) : Page.hasScripts 2 (Page.texts success) = true := by
  have hfirst : Page.hasScripts 1
      [Page.opening.toList, Page.heading.toList, (Page.status success).toList] = true := by
    cases success <;> decide +kernel
  have hall := Page.hasScripts_append hfirst Page.hasScripts_lastTexts
  exact hall

/-! ## Pages -/

/-- A name has no angle brackets. -/
theorem isAngleFree_of_isNameChar {name : List Char}
    (h : ∀ c ∈ name, Drawing.isNameChar c = true) : IsAngleFree name := by
  intro c hc
  apply Text.isAngle_eq_false
  exact Text.isScriptSign_eq_false (h c hc) (by decide) (by decide) (by decide)

/-- The body is made of the fixed texts and of texts without angle brackets, and the
name of the container is a name. -/
def Page.IsFilled (body : List Char) : Prop :=
  ∃ (success : Bool) (title line name data : List Char),
    body = Text.fill (Page.slots success title line name data)
      ∧ (∀ slot ∈ Page.slots success title line name data, IsAngleFree slot.2)
      ∧ ∀ c ∈ name, Drawing.isNameChar c = true

/-- Every page with a drawing is filled so: titles and lines are escaped, and the data of a
drawing are free of angle brackets. -/
theorem Page.IsFilled.of_draw {levels : Nat} {v : View} {drawing : List Char}
    (h : Drawing.draw levels Drawing.defaultHeight v = .ok drawing) (resource : List Char)
    (success : Bool) (message : List Char) :
    Page.IsFilled (page resource success message drawing) := by
  obtain ⟨id, -, -, -, rfl⟩ := Drawing.draw_eq_ok_iff.mp h
  have hname : ∀ c ∈ Drawing.containerName id.toList, Drawing.isNameChar c = true :=
    fun c hc => Drawing.isNameChar_of_mem_containerName hc
  refine ⟨success, _, _, _, _, page_eq_fill _ _ _ _ _, ?_, hname⟩
  intro slot hslot
  have hput := (Page.mem_slots hslot).2
  simp only [List.mem_cons, List.not_mem_nil, or_false] at hput
  rcases hput with hput | hput | hput | hput | hput | hput | hput <;> rw [hput]
  · exact Text.isAngleFree_escape resource
  · exact Text.isAngleFree_escape resource
  · exact Text.isAngleFree_escape message
  · exact isAngleFree_of_isNameChar hname
  · exact Text.isAngleFree_scriptSafe _
  · exact isAngleFree_of_isNameChar hname
  · exact fun c hc => absurd hc List.not_mem_nil

/-- The angle brackets of a page are those of its fixed texts. -/
theorem Page.IsFilled.filter_isAngle {body : List Char} (h : Page.IsFilled body) :
    body.filter isAngle = (Page.texts true).flatMap (List.filter isAngle) := by
  obtain ⟨success, title, line, name, data, rfl, hfree, -⟩ := h
  calc (Text.fill (Page.slots success title line name data)).filter isAngle
      = (Page.slots success title line name data).flatMap
          (fun slot => slot.1.filter isAngle) := Text.filter_isAngle_fill hfree
    _ = (Page.texts success).flatMap (List.filter isAngle) := by
        rw [← Page.map_fst_slots success title line name data, List.flatMap_map]
    _ = (Page.texts true).flatMap (List.filter isAngle) := Page.filter_isAngle_texts success

/-- A page has two scripts. -/
theorem Page.IsFilled.occurrences_eq_two {body mark : List Char} (h : Page.IsFilled body)
    (hmark : mark ∈ Page.scriptMarks) : occurrences mark body = 2 := by
  obtain ⟨success, title, line, name, data, rfl, hfree, -⟩ := h
  have htexts := List.all_eq_true.mp (Page.hasScripts_texts success) mark hmark
  rw [Bool.and_eq_true, List.all_eq_true, beq_iff_eq] at htexts
  have hhead : mark.head? = some '<' := by
    simp only [Page.scriptMarks, List.mem_cons, List.not_mem_nil, or_false] at hmark
    rcases hmark with rfl | rfl <;> rfl
  have hclosed : ∀ slot ∈ Page.slots success title line name data,
      Text.isClosedFor mark slot.1 = true := fun slot hslot =>
    htexts.1 slot.1 (Page.mem_slots hslot).1
  rw [Text.occurrences_fill hhead hfree hclosed, Page.map_fst_slots, htexts.2]

/-- Two index pages have the same angle brackets, whatever hosts, sources and visitors
put into them; each has two scripts, and the script finds the container by the name
that the container has. -/
theorem index_pages_share_markup {host host' : Host} {search search' : Search}
    {query query' body body' : List Char}
    (hdraws : host.DrawsByDefault) (hdraws' : host'.DrawsByDefault)
    (h : (host.indexFrom search query).page? = some body)
    (h' : (host'.indexFrom search' query').page? = some body') :
    body.filter isAngle = body'.filter isAngle
      ∧ occurrences "<script".toList body = 2
      ∧ occurrences "</script>".toList body = 2
      ∧ ∃ (success : Bool) (title line name data : List Char),
          body = Text.fill (Page.slots success title line name data)
            ∧ (∀ slot ∈ Page.slots success title line name data, IsAngleFree slot.2)
            ∧ ∀ c ∈ name, Drawing.isNameChar c = true := by
  obtain ⟨resource, success, message, v, drawing, hdrawing, rfl⟩ := page?_indexFrom hdraws h
  obtain ⟨resource', success', message', v', drawing', hdrawing', rfl⟩ :=
    page?_indexFrom hdraws' h'
  have hfilled := Page.IsFilled.of_draw hdrawing (Page.name resource) success message.toList
  have hfilled' :=
    Page.IsFilled.of_draw hdrawing' (Page.name resource') success' message'.toList
  refine ⟨?_, ?_, ?_, hfilled⟩
  · rw [hfilled.filter_isAngle, hfilled'.filter_isAngle]
  · exact hfilled.occurrences_eq_two List.mem_cons_self
  · exact hfilled.occurrences_eq_two (List.mem_cons_of_mem _ List.mem_cons_self)

/-- A source with markup in its slice, asked for a resource with markup, and one that
fails with markup in its message. -/
theorem index_pages_share_markup_scripts :
    let host : Host :=
      ⟨.dict [("RESOURCE", .str "<script>")], [], ⟨[], []⟩, fun _ => .answer 404 [],
        ⟨1000, 1000, 1000, 1000⟩⟩
    let full : Source := .constant ⟨[⟨.str "</script>", .null, .str "<b>", .null, .int 0, .null,
      .null, .null, .null, .null⟩], []⟩
    let failing : Source := .broken (.foreign "OSError" (.ok "<script>"))
    let query := "resource=<i>".toList
    ∃ body body', (host.indexFrom (fun _ => ([], .ok full)) []).page? = some body
      ∧ (host.indexFrom (fun _ => ([], .ok failing)) query).page? = some body'
      ∧ body.filter isAngle = body'.filter isAngle
      ∧ occurrences "<script".toList body = 2 := by
  intro host full failing query
  have hdraws : host.DrawsByDefault := by
    intro settings h
    cases h
    rfl
  obtain ⟨body, hbody⟩ :
      ∃ body, (host.indexFrom (fun _ => ([], .ok full)) []).page? = some body :=
    Option.isSome_iff_exists.mp (by decide +kernel)
  obtain ⟨body', hbody'⟩ :
      ∃ body', (host.indexFrom (fun _ => ([], .ok failing)) query).page? = some body' :=
    Option.isSome_iff_exists.mp (by decide +kernel)
  obtain ⟨hangle, hopenings, -⟩ := index_pages_share_markup hdraws hdraws hbody hbody'
  exact ⟨body, body', hbody, hbody', hangle, hopenings⟩

end CodeAtlas.Host
