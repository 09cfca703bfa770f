import MailRelay.Proofs.Mime.Part
import MailRelay.Smtp.Ingest
import Mathlib.Data.List.Induction

set_option autoImplicit false

namespace MailRelay

namespace Leaf

def isHtml (l : Leaf) : Bool := l.filename.isNone && l.mediaType == "text/html"

def isPlain (l : Leaf) : Bool := l.filename.isNone && l.mediaType == "text/plain"

def attachment? (l : Leaf) : Option (Except MailError Attachment) :=
  l.filename.map fun filename => l.data.map fun data => ⟨filename, l.mediaType, data⟩

theorem data_eq_error {l : Leaf} {e : MailError} (fails : l.data = .error e) : e = .badBase64 := by
  unfold data at fails
  split at fails
  · cases fails
  · cases fails
    rfl

theorem text_eq_error_iff [ForeignDecoders] {l : Leaf} {e : MailError} :
    l.text = .error e ↔ l.data = .error e := by
  unfold text
  cases l.data <;> simp [Except.map]

end Leaf

namespace Ingest

variable [ForeignDecoders]

/-- The first text that is not empty, or no text if there is none. -/
inductive FirstText : List Leaf → String → Prop where
  | none : FirstText [] ""
  | later {l : Leaf} {ls : List Leaf} {s : String} (empty : l.isPlain = true → l.text = .ok "")
    (rest : FirstText ls s) : FirstText (l :: ls) s
  | here {l : Leaf} {ls : List Leaf} {s : String} (plain : l.isPlain = true)
    (read : l.text = .ok s) (filled : s ≠ "") : FirstText (l :: ls) s

structure Gathers (ls : List Leaf) (c : Content) : Prop where
  attachments : ls.filterMap Leaf.attachment? = c.attachments.map .ok
  html : (ls.find? Leaf.isHtml).mapM Leaf.text = .ok c.html
  body : FirstText ls c.body

/-- Whether a leaf is decoded when it comes after others. -/
inductive Wanted (before : List Leaf) (l : Leaf) : Prop where
  | attachment (named : l.filename.isSome = true)
  | html (html : l.isHtml = true) (first : ∀ g ∈ before, g.isHtml = false)
  | body (plain : l.isPlain = true) (empty : ∀ g ∈ before, g.isPlain = true → g.text = .ok "")

inductive Content.Wants (c : Content) (l : Leaf) : Prop where
  | attachment (named : l.filename.isSome = true)
  | html (html : l.isHtml = true) (free : c.html = none)
  | body (plain : l.isPlain = true) (free : c.body = "")

inductive Content.Adds (c : Content) (l : Leaf) : Except MailError Content → Prop where
  | attachment {filename : String} {data : Bytes} (named : l.filename = some filename)
    (read : l.data = .ok data) :
    Adds c l (.ok { c with attachments := c.attachments ++ [⟨filename, l.mediaType, data⟩] })
  | html {s : String} (html : l.isHtml = true) (free : c.html = none) (read : l.text = .ok s) :
    Adds c l (.ok { c with html := some s })
  | body {s : String} (plain : l.isPlain = true) (free : c.body = "") (read : l.text = .ok s) :
    Adds c l (.ok { c with body := s })
  | passed (unnamed : l.filename = none) (noHtml : l.isHtml = true → c.html ≠ none)
    (noBody : l.isPlain = true → c.body ≠ "") : Adds c l (.ok c)
  | spoiled {e : MailError} (wants : c.Wants l) (fails : l.data = .error e) : Adds c l (.error e)

theorem Content.adds (c : Content) (l : Leaf) : c.Adds l (c.add l) := by
  unfold add
  split
  · next filename named =>
    cases data : l.data with
    | ok bytes => exact .attachment named data
    | error e => exact .spoiled (.attachment (by simp [named])) data
  next unnamed =>
  split
  · next html =>
    have html : l.isHtml = true ∧ c.html = none := by simpa [Leaf.isHtml, unnamed] using html
    cases text : l.text with
    | ok s => exact .html html.1 html.2 text
    | error e => exact .spoiled (.html html.1 html.2) (Leaf.text_eq_error_iff.1 text)
  next noHtml =>
  split
  · next plain =>
    have plain : l.isPlain = true ∧ c.body = "" := by simpa [Leaf.isPlain, unnamed] using plain
    cases text : l.text with
    | ok s => exact .body plain.1 plain.2 text
    | error e => exact .spoiled (.body plain.1 plain.2) (Leaf.text_eq_error_iff.1 text)
  next noBody =>
  refine .passed unnamed ?_ ?_
  · simpa [Leaf.isHtml, unnamed] using noHtml
  · simpa [Leaf.isPlain, unnamed] using noBody

mutual

theorem collect_eq (c : Content) : ∀ part, collect c part = part.leaves.foldlM Content.add c
  | .leaf l => by simp [collect, Part.leaves]
  | .divided parts => by rw [collect, Part.leaves, collectAll_eq]

theorem collectAll_eq (c : Content) :
    ∀ parts, collectAll c parts = (Part.leavesOfAll parts).foldlM Content.add c
  | [] => rfl
  | part :: rest => by
    rw [collectAll, Part.leavesOfAll, List.foldlM_append, collect_eq c part]
    exact congrArg _ (funext fun c => collectAll_eq c rest)

end

namespace FirstText

variable {ls : List Leaf} {l : Leaf} {s : String}

theorem ends (first : FirstText ls s) (passed : l.isPlain = true → s ≠ "") :
    FirstText (ls ++ [l]) s := by
  induction first with
  | none => exact .later (fun plain => absurd rfl (passed plain)) .none
  | later empty rest ih => exact .later empty (ih passed)
  | here plain read filled => exact .here plain read filled

theorem empty (first : FirstText ls "") : ∀ g ∈ ls, g.isPlain = true → g.text = .ok "" := by
  generalize nothing : "" = s at first
  induction first with
  | none => exact List.forall_mem_nil _
  | later empty rest ih => exact List.forall_mem_cons.2 ⟨nothing ▸ empty, ih nothing⟩
  | here _ _ filled => exact absurd nothing.symm filled

theorem takes (first : FirstText ls "") (plain : l.isPlain = true) (read : l.text = .ok s) :
    FirstText (ls ++ [l]) s := by
  generalize nothing : "" = t at first
  induction first with
  | none =>
    by_cases filled : s = ""
    · exact filled ▸ .later (fun _ => filled ▸ read) .none
    · exact .here plain read filled
  | later empty rest ih => exact .later empty (ih nothing)
  | here _ _ filled => exact absurd nothing.symm filled

-- Behind empty texts only, a text is the one that is taken, or empty as well.
theorem text_of_plain {before after : List Leaf} (first : FirstText (before ++ l :: after) s)
    (empty : ∀ g ∈ before, g.isPlain = true → g.text = .ok "") (plain : l.isPlain = true) :
    l.text = .ok s ∨ l.text = .ok "" := by
  induction before with
  | nil =>
    cases first with
    | later empty => exact .inr (empty plain)
    | here _ read => exact .inl read
  | cons g before ih =>
    obtain ⟨skipped, others⟩ := List.forall_mem_cons.1 empty
    cases first with
    | later _ rest => exact ih rest others
    | here plain read filled =>
      rw [skipped plain] at read
      cases read
      exact absurd rfl filled

theorem unique {t : String} (first : FirstText ls s) (other : FirstText ls t) : s = t := by
  induction first with
  | none =>
    cases other
    rfl
  | later empty rest ih =>
    cases other with
    | later _ rest => exact ih rest
    | here plain read filled =>
      rw [empty plain] at read
      cases read
      exact absurd rfl filled
  | here plain read filled =>
    cases other with
    | later empty =>
      rw [empty plain] at read
      cases read
      exact absurd rfl filled
    | here _ again =>
      rw [read] at again
      exact Except.ok.inj again

end FirstText

namespace Gathers

variable {ls : List Leaf} {l : Leaf} {c c' : Content} {e : MailError}

theorem nothing : Gathers [] ⟨"", none, []⟩ :=
  ⟨rfl, rfl, .none⟩

theorem unique (gathers : Gathers ls c) (other : Gathers ls c') : c = c' := by
  have attachments : c.attachments = c'.attachments :=
    List.map_injective_iff.2 (fun _ _ => Except.ok.inj)
      (gathers.attachments.symm.trans other.attachments)
  have html : c.html = c'.html := Except.ok.inj (gathers.html.symm.trans other.html)
  have body : c.body = c'.body := gathers.body.unique other.body
  cases c
  cases c'
  simp_all

section

variable (gathers : Gathers ls c)

include gathers

theorem no_html (free : c.html = none) : ls.find? Leaf.isHtml = none := by
  have html := gathers.html
  rw [free] at html
  cases found : ls.find? Leaf.isHtml with
  | none => rfl
  | some g =>
    rw [found] at html
    cases text : g.text <;> simp [text] at html

theorem html_ends (passed : l.isHtml = true → c.html ≠ none) :
    (ls ++ [l]).find? Leaf.isHtml = ls.find? Leaf.isHtml := by
  rw [List.find?_append]
  cases found : ls.find? Leaf.isHtml with
  | some g => rfl
  | none =>
    have html := gathers.html
    rw [found] at html
    have free : c.html = none := (Except.ok.inj html).symm
    have other : l.isHtml = false := by
      by_contra html
      exact passed (by simpa using html) free
    simp [other]

theorem wanted (wants : c.Wants l) : Wanted ls l := by
  cases wants with
  | attachment named => exact .attachment named
  | html html free =>
    exact .html html (by simpa using List.find?_eq_none.1 (gathers.no_html free))
  | body plain free =>
    have body := gathers.body
    rw [free] at body
    exact .body plain body.empty

theorem add (added : c.add l = .ok c') : Gathers (ls ++ [l]) c' := by
  have step := c.adds l
  rw [added] at step
  cases step with
  | @attachment filename data named read =>
    have noHtml : l.isHtml = false := by simp [Leaf.isHtml, named]
    have noBody : l.isPlain = false := by simp [Leaf.isPlain, named]
    refine ⟨?_, ?_, gathers.body.ends (by simp [noBody])⟩
    · simp [gathers.attachments, Leaf.attachment?, named, read, Except.map]
    · rw [gathers.html_ends (by simp [noHtml])]
      exact gathers.html
  | @html s html free read =>
    have unnamed : l.filename = none := by simp_all [Leaf.isHtml]
    have noBody : l.isPlain = false := by simp_all [Leaf.isHtml, Leaf.isPlain]
    refine ⟨?_, ?_, gathers.body.ends (by simp [noBody])⟩
    · simp [gathers.attachments, Leaf.attachment?, unnamed]
    · simp [List.find?_append, gathers.no_html free, html, read]
  | @body s plain free read =>
    have unnamed : l.filename = none := by simp_all [Leaf.isPlain]
    have noHtml : l.isHtml = false := by simp_all [Leaf.isHtml, Leaf.isPlain]
    have body := gathers.body
    rw [free] at body
    refine ⟨?_, ?_, body.takes plain read⟩
    · simp [gathers.attachments, Leaf.attachment?, unnamed]
    · rw [gathers.html_ends (by simp [noHtml])]
      exact gathers.html
  | passed unnamed noHtml noBody =>
    refine ⟨?_, ?_, gathers.body.ends noBody⟩
    · simp [gathers.attachments, Leaf.attachment?, unnamed]
    · rw [gathers.html_ends noHtml]
      exact gathers.html

end

-- Nothing that is taken may fail.
theorem data_ne_error {before after : List Leaf} (gathers : Gathers (before ++ l :: after) c)
    (wanted : Wanted before l) : l.data ≠ .error e := by
  intro fails
  cases wanted with
  | attachment named =>
    obtain ⟨filename, named⟩ := Option.isSome_iff_exists.1 named
    have listed : Except.error e ∈ (before ++ l :: after).filterMap Leaf.attachment? :=
      List.mem_filterMap.2 ⟨l, by simp, by simp [Leaf.attachment?, named, fails, Except.map]⟩
    rw [gathers.attachments] at listed
    simp at listed
  | html html first =>
    have found : (before ++ l :: after).find? Leaf.isHtml = some l :=
      List.find?_eq_some_iff_append.2 ⟨html, before, after, rfl, by simpa using first⟩
    have read := gathers.html
    rw [found] at read
    simp [Leaf.text_eq_error_iff.2 fails] at read
  | body plain empty =>
    have text : l.text = .error e := Leaf.text_eq_error_iff.2 fails
    rcases gathers.body.text_of_plain empty plain with read | read <;>
      cases text.symm.trans read

end Gathers

def Spoils (ls : List Leaf) (e : MailError) : Prop :=
  ∃ before l after, ls = before ++ l :: after ∧ Wanted before l ∧ l.data = .error e

theorem Gathers.not_spoils {ls : List Leaf} {c : Content} {e : MailError} (gathers : Gathers ls c) :
    ¬Spoils ls e := by
  rintro ⟨before, l, after, rfl, wanted, fails⟩
  exact gathers.data_ne_error wanted fails

theorem Spoils.unique {ls : List Leaf} {e e' : MailError} (spoils : Spoils ls e)
    (other : Spoils ls e') : e = e' := by
  obtain ⟨_, _, _, _, _, fails⟩ := spoils
  obtain ⟨_, _, _, _, _, again⟩ := other
  rw [Leaf.data_eq_error fails, Leaf.data_eq_error again]

theorem foldlM_cases (ls : List Leaf) :
    (∃ c, ls.foldlM Content.add ⟨"", none, []⟩ = .ok c ∧ Gathers ls c) ∨
      ∃ e, ls.foldlM Content.add ⟨"", none, []⟩ = .error e ∧ Spoils ls e := by
  induction ls using List.reverseRecOn with
  | nil => exact .inl ⟨_, rfl, .nothing⟩
  | append_singleton ls l ih =>
    have last : (ls ++ [l]).foldlM Content.add ⟨"", none, []⟩ =
        ls.foldlM Content.add ⟨"", none, []⟩ >>= fun c => c.add l := by simp
    rw [last]
    rcases ih with ⟨c, gathered, gathers⟩ | ⟨e, failed, before, g, after, rfl, wanted, fails⟩
    · rw [gathered]
      have step := c.adds l
      cases added : c.add l with
      | ok c' => exact .inl ⟨c', added, gathers.add added⟩
      | error e =>
        rw [added] at step
        cases step with
        | spoiled wants fails =>
          exact .inr ⟨e, added, ls, l, [], rfl, gathers.wanted wants, fails⟩
    · rw [failed]
      exact .inr ⟨e, rfl, before, g, after ++ [l], by simp, wanted, fails⟩

theorem collect_eq_ok_iff {part : Part} {c : Content} :
    collect ⟨"", none, []⟩ part = .ok c ↔ Gathers part.leaves c := by
  rw [collect_eq]
  constructor
  · intro gathered
    rcases foldlM_cases part.leaves with ⟨c', again, gathers⟩ | ⟨e, failed, -⟩
    · cases gathered.symm.trans again
      exact gathers
    · cases gathered.symm.trans failed
  · intro gathers
    rcases foldlM_cases part.leaves with ⟨c', gathered, again⟩ | ⟨e, -, spoils⟩
    · rw [gathered, gathers.unique again]
    · exact absurd spoils gathers.not_spoils

theorem collect_eq_error_iff {part : Part} {e : MailError} :
    collect ⟨"", none, []⟩ part = .error e ↔ Spoils part.leaves e := by
  rw [collect_eq]
  constructor
  · intro failed
    rcases foldlM_cases part.leaves with ⟨c, gathered, -⟩ | ⟨e', again, spoils⟩
    · cases failed.symm.trans gathered
    · cases failed.symm.trans again
      exact spoils
  · intro spoils
    rcases foldlM_cases part.leaves with ⟨c, -, gathers⟩ | ⟨e', failed, again⟩
    · exact absurd spoils gathers.not_spoils
    · rw [failed, spoils.unique again]

/-- The walk over the parts goes once over their leaves. It gathers every attachment, the first HTML
text and the first text that is not empty, and it fails exactly when a leaf cannot be decoded that is an
attachment or finds its place still free. -/
theorem parts_are_gathered_in_one_pass (part : Part) :
    (∀ c, collect c part = part.leaves.foldlM Content.add c) ∧
      (∀ c, collect ⟨"", none, []⟩ part = .ok c ↔ Gathers part.leaves c) ∧
      ∀ e, collect ⟨"", none, []⟩ part = .error e ↔ Spoils part.leaves e :=
  ⟨fun c => collect_eq c part, fun _ => collect_eq_ok_iff, fun _ => collect_eq_error_iff⟩

end Ingest

-- The last leaf is no base64, but there is HTML text before it.
open AsciiOnly in
example :
    let text (mediaType content : String) : Leaf :=
      ⟨mediaType, "utf-8", none, .asIs, Utf8.ofString content⟩
    Ingest.collect ⟨"", none, []⟩ (.divided [
      .divided [.leaf (text "text/plain" ""), .leaf (text "text/html" "h")],
      .leaf { text "text/plain" "n" with filename := some "n.txt" },
      .divided [.leaf (text "text/plain" "b")],
      .leaf { text "text/html" "?" with encoding := .base64 }]) =
      .ok ⟨"b", some "h", [⟨"n.txt", "text/plain", [110]⟩]⟩ := by
  decide +kernel

end MailRelay
