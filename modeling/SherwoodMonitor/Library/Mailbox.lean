import Mathlib.Data.List.Nodup
import Mathlib.Data.List.Pairwise

/-! A bounded queue whose readers take what is meant for them. Each item is held with its number
among the items posted, so that two equal items are told apart. -/
namespace SherwoodMonitor

/-- The items posted so far, those still held, and those given away, each with its reader. -/
structure Mailbox (α ρ : Type*) where
  posted : List α := []
  held : List (α × ℕ) := []
  given : List (ρ × α × ℕ) := []

namespace Mailbox
variable {α ρ : Type*}

/-- Post an item; where `cap` items are held the oldest is dropped. -/
def post (cap : ℕ) (b : Mailbox α ρ) (a : α) : Mailbox α ρ :=
  { b with
    posted := b.posted ++ [a]
    held := (if b.held.length = cap then b.held.tail else b.held) ++ [(a, b.posted.length)] }

/-- Give items to a reader and hold the rest. -/
def give (b : Mailbox α ρ) (reader : ρ) (out rest : List (α × ℕ)) : Mailbox α ρ :=
  { b with held := rest, given := b.given ++ out.map fun e => (reader, e) }

/-- What a take may do with the items held: the items given are some of them, no longer held, and
every other item that has not expired stays, in its order. -/
structure Takes [DecidableEq α] (fresh : α → Bool) (held out rest : List (α × ℕ)) : Prop where
  given : out.Sublist held
  kept : rest.Sublist held
  gone : ∀ e ∈ out, e ∉ rest
  others : rest.filter (fun e => fresh e.1) = held.filter (fun e => fresh e.1 && e ∉ out)

/-- Nothing is given twice, everything given was posted under its number, and the reader may have
it. -/
structure Sound (allowed : ρ → α → Prop) (b : Mailbox α ρ) : Prop where
  held_posted : b.held.Sublist b.posted.zipIdx
  given_posted : ∀ d ∈ b.given, b.posted[d.2.2]? = some d.2.1
  once : (b.given.map (·.2.2)).Nodup
  gone : ∀ d ∈ b.given, ∀ e ∈ b.held, e.2 ≠ d.2.2
  given_allowed : ∀ d ∈ b.given, allowed d.1 d.2.1

variable {allowed : ρ → α → Prop} {b : Mailbox α ρ}

lemma sound_empty : Sound allowed ({} : Mailbox α ρ) := by
  constructor <;> simp

lemma Sound.posted_of_held (h : Sound allowed b) {e : α × ℕ} (he : e ∈ b.held) :
    b.posted[e.2]? = some e.1 :=
  List.mem_zipIdx_iff_getElem?.1 (h.held_posted.subset he)

/-- The items held come in the order of their numbers. -/
lemma Sound.held_numbers (h : Sound allowed b) : (b.held.map (·.2)).Nodup := by
  have hnodup : (b.posted.zipIdx.map (·.2)).Nodup := by
    rw [List.zipIdx_map_snd]
    exact List.nodup_range' 
  exact hnodup.sublist (h.held_posted.map _)

lemma Sound.held_nodup (h : Sound allowed b) : b.held.Nodup := h.held_numbers.of_map _

/-- The items held come in the order in which they were posted. -/
lemma Sound.held_pairwise (h : Sound allowed b) {r : α → α → Prop} (hr : b.posted.Pairwise r) :
    b.held.Pairwise fun e e' => r e.1 e'.1 := by
  have hzip : (b.posted.zipIdx.map (·.1)).Pairwise r := by
    rw [List.zipIdx_map_fst]
    exact hr
  exact (List.pairwise_map.1 hzip).sublist h.held_posted

lemma Sound.post (h : Sound allowed b) (cap : ℕ) (a : α) : Sound allowed (b.post cap a) where
  held_posted := by
    have hsub : (if b.held.length = cap then b.held.tail else b.held).Sublist b.held := by
      split_ifs
      · exact List.tail_sublist _
      · exact List.Sublist.refl _
    rw [Mailbox.post, List.zipIdx_append]
    refine (hsub.trans h.held_posted).append ?_
    simp
  given_posted d hd := by
    have hget := h.given_posted d hd
    rw [Mailbox.post, List.getElem?_append_left (List.getElem?_eq_some_iff.1 hget).1]
    exact hget
  once := h.once
  gone d hd e he := by
    have hget := (List.getElem?_eq_some_iff.1 (h.given_posted d hd)).1
    rw [Mailbox.post, List.mem_append, List.mem_singleton] at he
    rcases he with he | rfl
    · refine h.gone d hd e ?_
      split_ifs at he
      · exact List.mem_of_mem_tail he
      · exact he
    · exact Ne.symm (Nat.ne_of_lt hget)
  given_allowed := h.given_allowed

lemma Sound.give [DecidableEq α] (h : Sound allowed b) {fresh : α → Bool} {reader : ρ}
    {out rest : List (α × ℕ)} (ht : Takes fresh b.held out rest)
    (hallowed : ∀ e ∈ out, allowed reader e.1) : Sound allowed (b.give reader out rest) where
  held_posted := ht.kept.trans h.held_posted
  given_posted d hd := by
    rw [Mailbox.give, List.mem_append] at hd
    rcases hd with hd | hd
    · exact h.given_posted d hd
    · obtain ⟨e, he, rfl⟩ := List.mem_map.1 hd
      exact h.posted_of_held (ht.given.subset he)
  once := by
    rw [Mailbox.give, List.map_append, List.map_map, List.nodup_append]
    refine ⟨h.once, h.held_numbers.sublist (ht.given.map _), ?_⟩
    intro n hn n' hn' heq
    obtain ⟨d, hd, rfl⟩ := List.mem_map.1 hn
    obtain ⟨e, he, rfl⟩ := List.mem_map.1 hn'
    exact h.gone d hd e (ht.given.subset he) heq.symm
  gone d hd e he := by
    rw [Mailbox.give, List.mem_append] at hd
    rcases hd with hd | hd
    · exact h.gone d hd e (ht.kept.subset he)
    · obtain ⟨e', he', rfl⟩ := List.mem_map.1 hd
      intro heq
      have hsame : e = e' := by
        have hget := h.posted_of_held (ht.kept.subset he)
        have hget' := h.posted_of_held (ht.given.subset he')
        rw [heq, hget'] at hget
        exact Prod.ext (Option.some.inj hget).symm heq
      exact ht.gone e' he' (hsame ▸ he)
  given_allowed d hd := by
    rw [Mailbox.give, List.mem_append] at hd
    rcases hd with hd | hd
    · exact h.given_allowed d hd
    · obtain ⟨e, he, rfl⟩ := List.mem_map.1 hd
      exact hallowed e he

/-- Whatever is held or was given has the property. -/
structure Holds (good : α → Prop) (b : Mailbox α ρ) : Prop where
  held : ∀ e ∈ b.held, good e.1
  given : ∀ d ∈ b.given, good d.2.1

variable {good : α → Prop}

lemma holds_empty : Holds good ({} : Mailbox α ρ) := by
  constructor <;> simp

lemma Holds.post (h : Holds good b) (cap : ℕ) {a : α} (ha : good a) : Holds good (b.post cap a) where
  held e he := by
    rw [Mailbox.post, List.mem_append, List.mem_singleton] at he
    rcases he with he | rfl
    · split_ifs at he
      · exact h.held e (List.mem_of_mem_tail he)
      · exact h.held e he
    · exact ha
  given := h.given

lemma Holds.give (h : Holds good b) (reader : ρ) {out rest : List (α × ℕ)}
    (hout : ∀ e ∈ out, e ∈ b.held) (hrest : ∀ e ∈ rest, e ∈ b.held) :
    Holds good (b.give reader out rest) where
  held e he := h.held e (hrest e he)
  given d hd := by
    rcases List.mem_append.1 hd with hd | hd
    · exact h.given d hd
    · obtain ⟨e, he, rfl⟩ := List.mem_map.1 hd
      exact h.held e (hout e he)

end Mailbox

end SherwoodMonitor
