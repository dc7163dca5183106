import Mathlib.Data.List.TakeWhile
import SherwoodMonitor.Library.Frames

/-! HTML of text, elements without attributes and entities: reading it character by character, and
where a text can be cut and still be well formed. -/
namespace SherwoodMonitor.Markup
open Frames

/-! ### Escaping -/

def escapeChar : Char → List Char
  | '&' => ['&', 'a', 'm', 'p', ';']
  | '<' => ['&', 'l', 't', ';']
  | '>' => ['&', 'g', 't', ';']
  | c => [c]

def escape (s : List Char) : List Char := s.flatMap escapeChar

/-- An entity stands for the characters that are not themselves in a text. -/
lemma escapeChar_cases (c : Char) :
    (c ≠ '&' ∧ c ≠ '<' ∧ c ≠ '>' ∧ escapeChar c = [c]) ∨
      ∃ name, name ≠ [] ∧ (∀ d ∈ name, d.isAlphanum = true) ∧
        escapeChar c = '&' :: (name ++ [';']) := by
  by_cases hamp : c = '&'
  · exact Or.inr ⟨['a', 'm', 'p'], by simp, List.all_eq_true.1 rfl, by rw [hamp]; rfl⟩
  by_cases hlt : c = '<'
  · exact Or.inr ⟨['l', 't'], by simp, List.all_eq_true.1 rfl, by rw [hlt]; rfl⟩
  by_cases hgt : c = '>'
  · exact Or.inr ⟨['g', 't'], by simp, List.all_eq_true.1 rfl, by rw [hgt]; rfl⟩
  exact Or.inl ⟨hamp, hlt, hgt, escapeChar.eq_4 c hamp hlt hgt⟩

lemma escapeChar_ne_nil (c : Char) : escapeChar c ≠ [] := by
  rcases escapeChar_cases c with ⟨-, -, -, h⟩ | ⟨name, -, -, h⟩ <;> simp [h]

@[simp] lemma escape_nil : escape [] = [] := rfl

@[simp] lemma escape_cons (c : Char) (s : List Char) : escape (c :: s) = escapeChar c ++ escape s :=
  List.flatMap_cons

@[simp] lemma escape_append (s t : List Char) : escape (s ++ t) = escape s ++ escape t :=
  List.flatMap_append

/-- Text in which nothing is escaped. -/
def Plain (s : List Char) : Prop := ∀ c ∈ s, c ≠ '&' ∧ c ≠ '<' ∧ c ≠ '>'

instance (s : List Char) : Decidable (Plain s) := List.decidableBAll _ s

lemma Plain.append {s t : List Char} (hs : Plain s) (ht : Plain t) : Plain (s ++ t) :=
  fun c hc => (List.mem_append.1 hc).elim (hs c) (ht c)

lemma escape_of_plain {s : List Char} (hs : Plain s) : escape s = s := by
  induction s with
  | nil => rfl
  | cons c s ih =>
    obtain ⟨hamp, hlt, hgt⟩ := hs c List.mem_cons_self
    rw [escape_cons, escapeChar.eq_4 c hamp hlt hgt, ih fun d hd => hs d (List.mem_cons_of_mem _ hd)]
    rfl

lemma flatMap_intercalate {α β : Type} (f : α → List β) (sep : List α) (pieces : List (List α)) :
    (sep.intercalate pieces).flatMap f =
      (sep.flatMap f).intercalate (pieces.map fun piece => piece.flatMap f) := by
  induction pieces with
  | nil => rfl
  | cons piece pieces ih =>
    cases pieces with
    | nil => simp
    | cons next pieces =>
      rw [List.intercalate_cons_cons, List.flatMap_append, List.flatMap_append, ih,
        List.map_cons (a := piece), List.map_cons, List.intercalate_cons_cons]

lemma escape_intercalate (sep : List Char) (pieces : List (List Char)) :
    escape (sep.intercalate pieces) = (escape sep).intercalate (pieces.map escape) :=
  flatMap_intercalate escapeChar sep pieces

lemma gt_notMem_escape (s : List Char) : '>' ∉ escape s := by
  intro h
  obtain ⟨c, -, hc⟩ := List.mem_flatMap.1 h
  rcases escapeChar_cases c with ⟨-, -, hgt, heq⟩ | ⟨name, -, hname, heq⟩
  · rw [heq, List.mem_singleton] at hc
    exact hgt hc.symm
  · rw [heq] at hc
    rcases List.mem_cons.1 hc with hc | hc
    · exact absurd hc (by decide)
    rcases List.mem_append.1 hc with hc | hc
    · exact absurd (hname _ hc) (by decide)
    · exact absurd (List.mem_singleton.1 hc) (by decide)

/-! ### Reading -/

inductive Mode
  | text
  | tag (content : List Char)
  | entity (name : List Char)
  deriving DecidableEq

/-- Where a reader stands, and the names of the elements that are open, the innermost first. -/
structure Reader where
  mode : Mode
  opened : List (List Char)
  deriving DecidableEq

def startsTag (c : Char) : Bool := c.isAlpha || c = '/'

/-- The end of a tag: `/name` closes the innermost element, and a name before a blank opens one. -/
def endTag (opened : List (List Char)) : List Char → Option Reader
  | [] => none
  | '/' :: name => if opened.head? = some name then some ⟨.text, opened.tail⟩ else none
  | content => some ⟨.text, content.takeWhile (· ≠ ' ') :: opened⟩

/-- One character; `none` where the text cannot be well formed any more. -/
def step (r : Reader) (c : Char) : Option Reader :=
  match r.mode with
  | .text =>
      some ⟨if c = '<' then .tag [] else if c = '&' then .entity [] else .text, r.opened⟩
  | .tag content =>
      if c = '>' then endTag r.opened content
      else if c = '<' ∨ (content = [] ∧ startsTag c = false) then none
      else some ⟨.tag (content ++ [c]), r.opened⟩
  | .entity name =>
      if c = ';' then if name = [] then none else some ⟨.text, r.opened⟩
      else if c.isAlphanum || c = '#' then some ⟨.entity (name ++ [c]), r.opened⟩ else none

def read (r : Reader) (l : List Char) : Option Reader := l.foldlM step r

@[simp] lemma read_nil (r : Reader) : read r [] = some r := rfl

lemma read_cons (r : Reader) (c : Char) (l : List Char) :
    read r (c :: l) = (step r c).bind fun r' => read r' l := List.foldlM_cons

lemma read_append (r : Reader) (l l' : List Char) :
    read r (l ++ l') = (read r l).bind fun r' => read r' l' := List.foldlM_append

def start : Reader := ⟨.text, []⟩

/-- Every tag and entity is complete, and the elements are closed in their order. -/
def WellFormed (l : List Char) : Prop := read start l = some start

instance (l : List Char) : Decidable (WellFormed l) := inferInstanceAs (Decidable (_ = _))

variable {opened : List (List Char)}

lemma read_entity_chars {name : List Char} (before : List Char)
    (hname : ∀ c ∈ name, c.isAlphanum = true) :
    read ⟨.entity before, opened⟩ name = some ⟨.entity (before ++ name), opened⟩ := by
  induction name generalizing before with
  | nil => simp
  | cons c name ih =>
    have hc := hname c List.mem_cons_self
    have hstep : step ⟨.entity before, opened⟩ c = some ⟨.entity (before ++ [c]), opened⟩ := by
      have hsemi : c ≠ ';' := by rintro rfl; exact absurd hc (by decide)
      simp [step, hsemi, hc]
    rw [read_cons, hstep, Option.bind_some, ih _ fun d hd => hname d (List.mem_cons_of_mem _ hd),
      List.append_assoc, List.singleton_append]

/-- The text of one character is read as a whole, and not before its end. -/
lemma read_escapeChar (c : Char) :
    read ⟨.text, opened⟩ (escapeChar c) = some ⟨.text, opened⟩ ∧
      ∀ k, 0 < k → k < (escapeChar c).length →
        ∃ name, read ⟨.text, opened⟩ ((escapeChar c).take k) = some ⟨.entity name, opened⟩ := by
  rcases escapeChar_cases c with ⟨hamp, hlt, -, h⟩ | ⟨name, hne, hname, h⟩
  · rw [h]
    refine ⟨by simp [read_cons, step, hamp, hlt], fun k hpos hk => ?_⟩
    rw [List.length_singleton] at hk
    omega
  · rw [h]
    have hopen : step ⟨.text, opened⟩ '&' = some ⟨.entity [], opened⟩ := rfl
    refine ⟨?_, fun k hpos hk => ⟨name.take (k - 1), ?_⟩⟩
    · have hclose : step ⟨.entity name, opened⟩ ';' = some ⟨.text, opened⟩ := by simp [step, hne]
      rw [read_cons, hopen, Option.bind_some, read_append, read_entity_chars _ hname,
        Option.bind_some, List.nil_append, read_cons, hclose]
      rfl
    · obtain ⟨k, rfl⟩ := Nat.exists_eq_add_of_lt hpos
      have hle : k ≤ name.length := by simp at hk; omega
      rw [Nat.zero_add, List.take_succ_cons, read_cons, hopen, Option.bind_some,
        List.take_append_of_le_length hle,
        read_entity_chars _ fun d hd => hname d (List.mem_of_mem_take hd)]
      rfl

lemma read_escape (s : List Char) :
    read ⟨.text, opened⟩ (escape s) = some ⟨.text, opened⟩ := by
  induction s with
  | nil => rfl
  | cons c s ih => rw [escape_cons, read_append, (read_escapeChar c).1, Option.bind_some, ih]

/-- Where escaped text is cut: between the texts of two of its characters. -/
def CutsText (s : List Char) (k : ℕ) : Prop := ∃ n, (escape s).take k = escape (s.take n)

lemma read_take_escape (s : List Char) (k : ℕ) :
    ∃ mode, read ⟨.text, opened⟩ ((escape s).take k) = some ⟨mode, opened⟩ ∧
      (mode = .text ↔ CutsText s k) := by
  induction s generalizing k with
  | nil => exact ⟨.text, by simp, by simp [CutsText]⟩
  | cons c s ih =>
    rw [escape_cons]
    have hpos := List.length_pos_of_ne_nil (escapeChar_ne_nil c)
    rcases Nat.eq_zero_or_pos k with rfl | hk
    · exact ⟨.text, rfl, by simpa [CutsText] using ⟨0, rfl⟩⟩
    rcases Nat.lt_or_ge k (escapeChar c).length with hlt | hge
    · obtain ⟨name, hread⟩ := (@read_escapeChar opened c).2 k hk hlt
      rw [List.take_append_of_le_length hlt.le]
      refine ⟨.entity name, hread, ⟨fun h => (nomatch h), fun ⟨n, hn⟩ => ?_⟩⟩
      rw [escape_cons, List.take_append_of_le_length hlt.le] at hn
      have hlen := congrArg List.length hn
      rw [List.length_take_of_le hlt.le] at hlen
      cases n with
      | zero => simp at hlen; omega
      | succ n => simp at hlen; omega
    · obtain ⟨mode, hread, hmode⟩ := ih (k - (escapeChar c).length)
      rw [List.take_append, List.take_of_length_le hge, read_append, (read_escapeChar c).1,
        Option.bind_some]
      refine ⟨mode, hread, hmode.trans ⟨fun ⟨n, hn⟩ => ⟨n + 1, ?_⟩, fun ⟨n, hn⟩ => ?_⟩⟩
      · rw [escape_cons, List.take_append, List.take_of_length_le hge, hn]
        rfl
      · rw [escape_cons, List.take_append, List.take_of_length_le hge] at hn
        cases n with
        | zero => exact absurd (List.append_eq_nil_iff.1 hn).1 (escapeChar_ne_nil c)
        | succ n => exact ⟨n, List.append_cancel_left hn⟩

/-! ### Documents -/

structure ElementName where
  name : List Char
  ne_nil : name ≠ []
  letters : ∀ c ∈ name, c.isAlpha = true

/-- What a text is made of; a stray `<` is one that starts no tag. -/
inductive Part
  | text (s : List Char)
  | element (tag : ElementName) (s : List Char)
  | stray (c : Char) (starts : startsTag c = false)

namespace Part

def html : Part → List Char
  | text s => escape s
  | element tag s => openTag tag.name ++ escape s ++ closeTag tag.name
  | stray c _ => ['<', c]

def IsStray : Part → Prop
  | stray _ _ => True
  | _ => False

instance (part : Part) : Decidable part.IsStray :=
  match part with
  | text _ => .isFalse id
  | element _ _ => .isFalse id
  | stray _ _ => .isTrue trivial

/-- A cut before the part's end leaves nothing of it but whole characters of a text. -/
def CutsAt (k : ℕ) : Part → Prop
  | text s => CutsText s k
  | element _ _ => k = 0
  | stray _ _ => k = 0

end Part

def html (doc : List Part) : List Char := doc.flatMap Part.html

/-- The first `k` characters hold no stray `<`, and they end in no element and no entity. -/
def Cuts : List Part → ℕ → Prop
  | [], _ => True
  | part :: rest, k =>
      if k < part.html.length then part.CutsAt k
      else ¬part.IsStray ∧ Cuts rest (k - part.html.length)

/-! ### Reading a document -/

/-- What stands between the brackets of a tag. -/
def TagContent (content : List Char) : Prop :=
  (∀ c ∈ content.head?, startsTag c = true) ∧ ∀ c ∈ content, c ≠ '<' ∧ c ≠ '>'

lemma read_tag_chars {content : List Char} (before : List Char)
    (hfirst : before = [] → ∀ c ∈ content.head?, startsTag c = true)
    (hfree : ∀ c ∈ content, c ≠ '<' ∧ c ≠ '>') :
    read ⟨.tag before, opened⟩ content = some ⟨.tag (before ++ content), opened⟩ := by
  induction content generalizing before with
  | nil => simp
  | cons c content ih =>
    obtain ⟨hlt, hgt⟩ := hfree c List.mem_cons_self
    have hstarts : ¬(before = [] ∧ startsTag c = false) := fun ⟨hnil, hno⟩ =>
      absurd (hfirst hnil c rfl) (by rw [hno]; decide)
    have hstep : step ⟨.tag before, opened⟩ c = some ⟨.tag (before ++ [c]), opened⟩ := by
      simp only [step, if_neg hgt, if_neg (not_or.2 ⟨hlt, hstarts⟩)]
    rw [read_cons, hstep, Option.bind_some,
      ih _ (fun h => absurd h (by simp)) fun d hd => hfree d (List.mem_cons_of_mem _ hd),
      List.append_assoc, List.singleton_append]

/-- A tag is read as a whole, and not before its end. -/
lemma read_tag {content : List Char} (h : TagContent content) :
    read ⟨.text, opened⟩ ('<' :: (content ++ ['>'])) = endTag opened content ∧
      ∀ k, 0 < k → k < content.length + 2 →
        ∃ before, read ⟨.text, opened⟩ (('<' :: (content ++ ['>'])).take k) =
          some ⟨.tag before, opened⟩ := by
  have hopen : step ⟨.text, opened⟩ '<' = some ⟨.tag [], opened⟩ := rfl
  refine ⟨?_, fun k hpos hk => ⟨content.take (k - 1), ?_⟩⟩
  · rw [read_cons, hopen, Option.bind_some, read_append, read_tag_chars _ (fun _ => h.1) h.2,
      Option.bind_some, List.nil_append, read_cons]
    simp only [step]
    cases endTag opened content <;> rfl
  · obtain ⟨k, rfl⟩ := Nat.exists_eq_add_of_lt hpos
    have hle : k ≤ content.length := by omega
    rw [Nat.zero_add, List.take_succ_cons, read_cons, hopen, Option.bind_some,
      List.take_append_of_le_length hle, read_tag_chars _ _ fun d hd => h.2 d (List.mem_of_mem_take hd)]
    · rfl
    · intro _ c hc
      cases content with
      | nil => simp at hc
      | cons d content =>
        cases k with
        | zero => simp at hc
        | succ k => exact h.1 c (by simpa using hc)

namespace ElementName

variable (tag : ElementName)

lemma free {c d : Char} (hc : c ∈ tag.name) (hd : d.isAlpha = false) : c ≠ d := by
  rintro rfl
  rw [tag.letters c hc] at hd
  exact absurd hd (by decide)

lemma opens : TagContent tag.name := by
  refine ⟨fun c hc => ?_, fun c hc => ⟨tag.free hc rfl, tag.free hc rfl⟩⟩
  rw [startsTag, tag.letters c (List.mem_of_mem_head? hc), Bool.true_or]

lemma closes : TagContent ('/' :: tag.name) := by
  refine ⟨fun c hc => ?_, fun c hc => ?_⟩
  · obtain rfl : '/' = c := by simpa using hc
    rfl
  · rcases List.mem_cons.1 hc with rfl | hc
    · decide
    · exact tag.opens.2 c hc

lemma endTag_open : endTag opened tag.name = some ⟨.text, tag.name :: opened⟩ := by
  have hblank : tag.name.takeWhile (· ≠ ' ') = tag.name :=
    List.takeWhile_eq_self_iff.2 fun c hc => by simpa using tag.free hc (d := ' ') rfl
  rw [endTag.eq_3 _ _ tag.ne_nil, hblank]
  intro name heq
  exact tag.free (d := '/') (heq ▸ List.mem_cons_self) rfl rfl

lemma endTag_close : endTag (tag.name :: opened) ('/' :: tag.name) = some ⟨.text, opened⟩ := by
  simp [endTag]

end ElementName

/-- A reader that was in the text of the open elements is there again just where this holds;
otherwise it is inside of something else, or has failed. -/
def Ends (opened : List (List Char)) (r : Option Reader) (back : Prop) : Prop :=
  (∃ mode inner, r = some ⟨mode, inner ++ opened⟩ ∧ ((mode = .text ∧ inner = []) ↔ back)) ∨
    (r = none ∧ ¬back)

lemma Ends.iff {r : Option Reader} {back : Prop} (h : Ends opened r back) :
    r = some ⟨.text, opened⟩ ↔ back := by
  rcases h with ⟨mode, inner, rfl, h⟩ | ⟨rfl, h⟩
  · rw [← h]
    simp
  · simp [h]

/-- An element that is open stays so. -/
lemma Ends.ne_start {r : Option Reader} {back : Prop} (h : Ends opened r back)
    (hopened : opened ≠ []) : r ≠ some start := by
  rcases h with ⟨mode, inner, rfl, -⟩ | ⟨rfl, -⟩
  · simp [start, hopened]
  · exact fun h => (nomatch h)

namespace Part

lemma read_html {part : Part} (h : ¬part.IsStray) :
    read ⟨.text, opened⟩ part.html = some ⟨.text, opened⟩ := by
  cases part with
  | text s => exact read_escape s
  | element tag s =>
    rw [html, read_append, read_append, openTag, (read_tag tag.opens).1, tag.endTag_open,
      Option.bind_some, read_escape, Option.bind_some, closeTag, ← List.cons_append,
      (read_tag tag.closes).1, tag.endTag_close]
  | stray => exact absurd trivial h

lemma read_stray {part : Part} (h : part.IsStray) : read ⟨.text, opened⟩ part.html = none := by
  cases part with
  | stray c starts =>
    have hend : endTag opened [] = none := rfl
    simp [html, read_cons, step, starts, hend]
  | _ => exact h.elim

/-- A cut inside an element leaves the element open. -/
lemma ends_element (tag : ElementName) (s : List Char) {k : ℕ}
    (hk : k < (element tag s).html.length) :
    Ends opened (read ⟨.text, opened⟩ ((element tag s).html.take k)) (k = 0) := by
  rcases Nat.eq_zero_or_pos k with rfl | hpos
  · exact Or.inl ⟨.text, [], rfl, by simp⟩
  have hlen : (openTag tag.name).length = tag.name.length + 2 := by simp [openTag]
  have hopen := @read_tag opened _ tag.opens
  rw [html, List.append_assoc, List.take_append]
  rcases Nat.lt_or_ge k (openTag tag.name).length with hlt | hge
  · obtain ⟨before, hread⟩ := hopen.2 k hpos (hlen ▸ hlt)
    rw [Nat.sub_eq_zero_of_le hlt.le, List.take_zero, List.append_nil, openTag, hread]
    exact Or.inl ⟨.tag before, [], rfl, by simp; omega⟩
  rw [List.take_of_length_le hge, read_append, openTag, hopen.1, tag.endTag_open, Option.bind_some,
    ← openTag]
  generalize hj : k - (openTag tag.name).length = j
  rw [List.take_append]
  rcases Nat.lt_or_ge j (escape s).length with hlt | hge'
  · obtain ⟨mode, hread, -⟩ := @read_take_escape (tag.name :: opened) s j
    rw [Nat.sub_eq_zero_of_le hlt.le, List.take_zero, List.append_nil, hread]
    exact Or.inl ⟨mode, [tag.name], rfl, by simp; omega⟩
  rw [List.take_of_length_le hge', read_append, read_escape, Option.bind_some]
  rcases Nat.eq_zero_or_pos (j - (escape s).length) with hzero | hpos'
  · rw [hzero]
    exact Or.inl ⟨.text, [tag.name], rfl, by simp; omega⟩
  · have hshort : j - (escape s).length < ('/' :: tag.name).length + 2 := by
      simp [html, closeTag] at hk ⊢
      omega
    obtain ⟨before, hread⟩ := (@read_tag (tag.name :: opened) _ tag.closes).2 _ hpos' hshort
    rw [closeTag, ← List.cons_append, hread]
    exact Or.inl ⟨.tag before, [tag.name], rfl, by simp; omega⟩

lemma ends_take {part : Part} {k : ℕ} (hk : k < part.html.length) :
    Ends opened (read ⟨.text, opened⟩ (part.html.take k)) (part.CutsAt k) := by
  cases part with
  | text s =>
    obtain ⟨mode, hread, hmode⟩ := @read_take_escape opened s k
    exact Or.inl ⟨mode, [], hread, by simpa [CutsAt] using hmode⟩
  | element tag s => exact ends_element tag s hk
  | stray c starts =>
    simp only [html, List.length_cons, List.length_nil] at hk
    rcases Nat.eq_zero_or_pos k with rfl | hpos
    · exact Or.inl ⟨.text, [], rfl, by simp [CutsAt]⟩
    · obtain rfl : k = 1 := by omega
      exact Or.inl ⟨.tag [], [], rfl, by simp [CutsAt]⟩

end Part

lemma html_cons (part : Part) (rest : List Part) : html (part :: rest) = part.html ++ html rest :=
  List.flatMap_cons

/-- Where the reader is after a cut. -/
lemma ends_html (doc : List Part) (k : ℕ) :
    Ends opened (read ⟨.text, opened⟩ ((html doc).take k)) (Cuts doc k) := by
  induction doc generalizing k with
  | nil => exact Or.inl ⟨.text, [], by simp [html], by simp [Cuts]⟩
  | cons part rest ih =>
    rw [html_cons, List.take_append, Cuts]
    split_ifs with hk
    · rw [Nat.sub_eq_zero_of_le hk.le, List.take_zero, List.append_nil]
      exact Part.ends_take hk
    · rw [List.take_of_length_le (Nat.le_of_not_lt hk), read_append]
      by_cases hstray : part.IsStray
      · rw [Part.read_stray hstray]
        exact Or.inr ⟨rfl, fun h => h.1 hstray⟩
      · rw [Part.read_html hstray, Option.bind_some]
        simpa [hstray] using ih (k - part.html.length)

lemma mem_tag {l before : List Char} {r : Reader} (hl : '>' ∉ l)
    (hr : read ⟨.tag before, opened⟩ l = some r) : ∃ content, r = ⟨.tag content, opened⟩ := by
  induction l generalizing before with
  | nil => exact ⟨before, (Option.some.inj hr).symm⟩
  | cons c l ih =>
    have hgt : c ≠ '>' := fun h => hl (h ▸ List.mem_cons_self)
    rw [read_cons] at hr
    simp only [step, if_neg hgt] at hr
    split_ifs at hr with hfails
    · exact nomatch hr
    · exact ih (fun h => hl (List.mem_cons_of_mem _ h)) hr

lemma read_tag_angle (before l : List Char) {k : ℕ} (hk : 0 < k) :
    read ⟨.tag before, opened⟩ (('<' :: l).take k) = none := by
  obtain ⟨k, rfl⟩ := Nat.exists_eq_add_of_lt hk
  rw [Nat.zero_add, List.take_succ_cons, read_cons]
  rfl

/-- A tag that was begun before the document is not finished in it. -/
lemma not_finishes_tag (doc : List Part) (k : ℕ) (before : List Char) {r : Reader}
    (hr : read ⟨.tag before, opened⟩ ((html doc).take k) = some r) : r.mode ≠ .text := by
  induction doc generalizing k before with
  | nil =>
    obtain ⟨content, rfl⟩ := mem_tag (l := (html []).take k) (by simp [html]) hr
    simp
  | cons part rest ih =>
    rw [html_cons] at hr
    rcases Nat.eq_zero_or_pos k with rfl | hk
    · obtain ⟨content, rfl⟩ := mem_tag (l := []) (by simp) hr
      simp
    cases part with
    | text s =>
      rw [List.take_append, read_append] at hr
      obtain ⟨r', hr', hrest⟩ := Option.bind_eq_some_iff.1 hr
      obtain ⟨content, rfl⟩ := mem_tag (fun h => gt_notMem_escape s (List.mem_of_mem_take h)) hr'
      exact ih _ content hrest
    | element tag s =>
      rw [Part.html, openTag, List.cons_append, List.cons_append, List.cons_append, read_tag_angle _ _ hk]
        at hr
      cases hr
    | stray c starts =>
      rw [Part.html, List.cons_append, read_tag_angle _ _ hk] at hr
      cases hr

/-- A text before which nothing is open or begun, and a document behind it. -/
theorem wellFormed_take_iff {head : List Char} (doc : List Part) (k : ℕ)
    (hhead : ∀ name opened, read start head ≠ some ⟨.entity name, opened⟩) :
    WellFormed ((head ++ html doc).take k) ↔
      if k ≤ head.length then WellFormed (head.take k)
      else WellFormed head ∧ Cuts doc (k - head.length) := by
  split_ifs with hk
  · rw [List.take_append_of_le_length hk]
  · rw [WellFormed, WellFormed, List.take_append, List.take_of_length_le (Nat.le_of_not_le hk),
      read_append]
    cases hread : read start head with
    | none => simp
    | some r =>
      obtain ⟨mode, opened⟩ := r
      rw [Option.bind_some]
      cases mode with
      | text =>
        have hends := @ends_html opened doc (k - head.length)
        cases opened with
        | nil => exact hends.iff.trans (by simp [start])
        | cons name opened => simpa [start] using hends.ne_start (by simp)
      | tag before =>
        have hnever : read ⟨.tag before, opened⟩ ((html doc).take (k - head.length)) ≠ some start :=
          fun h => not_finishes_tag doc _ before h rfl
        simpa [start] using hnever
      | entity name => exact absurd hread (hhead name opened)

/-! ### Characters that end nothing -/

/-- A character that has no meaning of its own and is in no name. -/
def Ordinary (c : Char) : Prop := c ∉ ['<', '>', '&', ';', '#'] ∧ c.isAlphanum = false

instance (c : Char) : Decidable (Ordinary c) := inferInstanceAs (Decidable (_ ∧ _))

lemma read_ordinary {c : Char} (hc : Ordinary c) (r : Reader) :
    (∃ r', read r [c] = some r' ∧ r'.opened = r.opened ∧
      ((r.mode = .text ∧ r'.mode = .text) ∨ ∃ before, r'.mode = .tag before ∧ r.mode ≠ .text)) ∨
    (read r [c] = none ∧ r.mode ≠ .text) := by
  obtain ⟨mode, opened⟩ := r
  have hlt : c ≠ '<' := by rintro rfl; exact hc.1 (by decide)
  have hgt : c ≠ '>' := by rintro rfl; exact hc.1 (by decide)
  have hamp : c ≠ '&' := by rintro rfl; exact hc.1 (by decide)
  have hsemi : c ≠ ';' := by rintro rfl; exact hc.1 (by decide)
  have hhash : c ≠ '#' := by rintro rfl; exact hc.1 (by decide)
  rw [read_cons]
  cases mode with
  | text => exact Or.inl ⟨⟨.text, opened⟩, by simp [step, hlt, hamp], rfl, Or.inl ⟨rfl, rfl⟩⟩
  | tag content =>
    simp only [step, if_neg hgt]
    split_ifs with hfails
    · exact Or.inr ⟨rfl, fun h => (nomatch h)⟩
    · exact Or.inl ⟨_, rfl, rfl, Or.inr ⟨_, rfl, fun h => (nomatch h)⟩⟩
  | entity name =>
    have hno : ¬(c.isAlphanum || decide (c = '#')) = true := by simp [hc.2, hhash]
    simp only [step, if_neg hsemi, if_neg hno]
    exact Or.inr ⟨rfl, fun h => (nomatch h)⟩

/-- Such a character behind a text changes nothing. -/
lemma wellFormed_concat_iff {c : Char} (hc : Ordinary c) (l : List Char) :
    WellFormed (l ++ [c]) ↔ WellFormed l := by
  rw [WellFormed, WellFormed, read_append]
  cases read start l with
  | none => simp
  | some r =>
    rw [Option.bind_some]
    obtain ⟨mode, opened⟩ := r
    rcases read_ordinary hc ⟨mode, opened⟩ with ⟨⟨mode', opened'⟩, h, hopened, hmode⟩ | ⟨h, hmode⟩
    · obtain rfl : opened' = opened := hopened
      rw [h]
      rcases hmode with ⟨hmode, hmode'⟩ | ⟨before, hmode', hmode⟩
      · obtain rfl : mode = .text := hmode
        obtain rfl : mode' = .text := hmode'
        rfl
      · obtain rfl : mode' = .tag before := hmode'
        have hne : mode ≠ .text := hmode
        simp [start, hne]
    · have hne : mode ≠ .text := hmode
      rw [h]
      simp [start, hne]

/-- No entity goes on behind such a character. -/
lemma not_entity_concat {c : Char} (hc : Ordinary c) (l name : List Char) :
    read start (l ++ [c]) ≠ some ⟨.entity name, opened⟩ := by
  rw [read_append]
  intro h
  obtain ⟨r, -, hr⟩ := Option.bind_eq_some_iff.1 h
  rcases read_ordinary hc r with ⟨r', hr', -, hmode⟩ | ⟨hr', -⟩
  · obtain rfl := Option.some.inj (hr.symm.trans hr')
    rcases hmode with ⟨-, hmode⟩ | ⟨before, hmode, -⟩
    · exact nomatch hmode
    · exact nomatch hmode
  · exact nomatch hr.symm.trans hr'

/-! ### Whole documents -/

lemma html_append (doc rest : List Part) : html (doc ++ rest) = html doc ++ html rest :=
  List.flatMap_append

lemma html_intercalate (sep : List Part) (docs : List (List Part)) :
    html (sep.intercalate docs) = (html sep).intercalate (docs.map html) :=
  flatMap_intercalate Part.html sep docs

def joinLines (lines : List (List Part)) : List Part := [Part.text ['\n']].intercalate lines

lemma html_joinLines (lines : List (List Part)) :
    html (joinLines lines) = ['\n'].intercalate (lines.map html) := html_intercalate _ lines

/-- A document that is not cut. -/
lemma cuts_of_length_le {doc : List Part} {k : ℕ} (hk : (html doc).length ≤ k) :
    Cuts doc k ↔ ∀ part ∈ doc, ¬part.IsStray := by
  induction doc generalizing k with
  | nil => simp [Cuts]
  | cons part rest ih =>
    rw [html_cons, List.length_append] at hk
    rw [Cuts, if_neg (by omega), ih (by omega), List.forall_mem_cons]

theorem wellFormed_append_iff {head : List Char} (doc : List Part)
    (hhead : ∀ name opened, read start head ≠ some ⟨.entity name, opened⟩) :
    WellFormed (head ++ html doc) ↔ WellFormed head ∧ ∀ part ∈ doc, ¬part.IsStray := by
  have h := wellFormed_take_iff doc ((head ++ html doc).length + 1) hhead
  rw [List.take_of_length_le (Nat.le_succ _), List.length_append, if_neg (by omega),
    cuts_of_length_le (by omega)] at h
  exact h

end SherwoodMonitor.Markup
