import LoggerTree.Proofs.Config.Ordered
import Mathlib.Data.List.Pairwise

/-! # Sections and their components

    The entries of a table are put into a section one after the other. Since no key comes twice,
    it is as if each component of the section were filled on its own: by the value of its key, or
    else by what it was before.

    Main statement: `putEntries_eq_ok_iff`.
-/

namespace LoggerTree

/-! ### Values by their keys -/

namespace Toml.Entries

/-- The value of a key, if the key is there. -/
def value? (entries : Entries) (key : String) : Option Value :=
  (entries.find? key.toList).map (·.2.2)

theorem value?_cons_self {key : Key} {name : String} (h : key.chars = name.toList) (node : Node)
    (entries : Entries) : value? ((key, node) :: entries) name = some node.2 := by
  simp [value?, find?, h]

theorem value?_cons_of_ne {key : Key} {name : String} (h : key.chars ≠ name.toList) (node : Node)
    (entries : Entries) : value? ((key, node) :: entries) name = value? entries name := by
  simp [value?, find?, h]

/-- A key in front does not come again. -/
theorem value?_of_sorted {e : Key × Node} {entries : Entries} {name : String}
    (h : (e :: entries).Pairwise fun e f => e.1.chars < f.1.chars)
    (hname : e.1.chars = name.toList) : value? entries name = none := by
  have hlater : ∀ f ∈ entries, ¬f.1.chars = name.toList := by
    intro f hf hsame
    have hlt := List.rel_of_pairwise_cons h hf
    rw [hname, hsame] at hlt
    exact lt_irrefl _ hlt
  have hnone : entries.find? name.toList = none :=
    List.find?_eq_none.2 fun f hf => by simpa using hlater f hf
  rw [value?, hnone, Option.map_none]

theorem exists_mem_of_value? {entries : Entries} {name : String} {v : Value}
    (h : entries.value? name = some v) : ∃ e ∈ entries, e.1.chars = name.toList ∧ e.2.2 = v := by
  obtain ⟨e, hfound, hv⟩ := Option.map_eq_some_iff.1 h
  have hkey : e.1.chars = name.toList := by simpa using List.find?_some hfound
  exact ⟨e, List.mem_of_find?_eq_some hfound, hkey, hv⟩

end Toml.Entries

namespace Config

open Toml (Value Entries)

/-! ### Components -/

/-- What a value gives, where there is one. Where there is none, what was there stays. -/
def Gives {α : Type} (Says : Value → α → Prop) (before : α) : Option Value → α → Prop
  | none, a => a = before
  | some v, a => Says v a

/-- A component of a section, with the key that is for it. -/
structure Component (σ : Type) where
  key : String
  Content : Type
  get : σ → Content
  set : Content → σ → σ
  get_set : ∀ a s, get (set a s) = a
  /-- What is looked into: the values that are known to say something, or to be wrong. -/
  Fits : Value → Prop
  /-- What a value says about the component. -/
  Says : Value → Content → Prop

namespace Component

variable {σ : Type}

/-- Two components have keys of their own and do not get in each other's way. -/
structure Apart (p q : Component σ) : Prop where
  key_ne : p.key ≠ q.key
  get_set : ∀ a s, p.get (q.set a s) = p.get s
  get_set' : ∀ a s, q.get (p.set a s) = q.get s

instance : Std.Symm (@Apart σ) where
  symm _ _ h := ⟨h.key_ne.symm, h.get_set', h.get_set⟩

/-- A field puts in what a value says, and refuses a value that says nothing. -/
structure FilledBy (p : Component σ) (field : Field σ) : Prop where
  key_eq : field.key = p.key
  put_eq_ok : ∀ blamed node s t, p.Fits node.2 →
    (field.put blamed node s = .ok t ↔ ∃ a, p.Says node.2 a ∧ p.set a s = t)

/-- A field that reads a content from the value and then puts it in. -/
theorem filledBy_of_decode {p : Component σ} {field : Field σ} (hkey : field.key = p.key)
    {decode : Toml.Span → Toml.Node → Decoded p.Content}
    (hput : ∀ blamed node s,
      field.put blamed node s = (decode blamed node).bind fun a => .ok (p.set a s))
    (hdecode : ∀ blamed node a, p.Fits node.2 →
      (decode blamed node = .ok a ↔ p.Says node.2 a)) : p.FilledBy field where
  key_eq := hkey
  put_eq_ok blamed node s t hfits := by
    rw [hput]
    constructor
    · intro h
      obtain ⟨a, ha, h⟩ := exists_of_bind_eq_ok h
      exact ⟨a, (hdecode blamed node a hfits).1 ha, Except.ok.inj h⟩
    · rintro ⟨a, hsays, rfl⟩
      rw [(hdecode blamed node a hfits).2 hsays]
      rfl

/-- There is nothing to a section but its components. -/
structure Complete (components : List (Component σ)) : Prop where
  apart : components.Pairwise Apart
  ext : ∀ s t, (∀ p ∈ components, p.get s = p.get t) → s = t

theorem Complete.apart_of_ne {components : List (Component σ)} (h : Complete components)
    {p q : Component σ} (hp : p ∈ components) (hq : q ∈ components) (hne : q ≠ p) : q.Apart p :=
  h.apart.forall hq hp hne

/-- A key has a field just if it has a component. -/
theorem fieldFor?_of_filled {components : List (Component σ)} {fields : List (Field σ)}
    (h : List.Forall₂ FilledBy components fields) (key : List Char) :
    (∃ p ∈ components, ∃ field, fieldFor? fields key = some field ∧ p.FilledBy field ∧
      key = p.key.toList) ∨
    fieldFor? fields key = none ∧ ∀ p ∈ components, key ≠ p.key.toList := by
  induction h with
  | nil => exact .inr ⟨rfl, by simp⟩
  | @cons p field components fields hfilled _ ih =>
    by_cases hkey : key = p.key.toList
    · have hfound : fieldFor? (field :: fields) key = some field := by
        simp [fieldFor?, hfilled.key_eq, hkey]
      exact .inl ⟨p, by simp, field, hfound, hfilled, hkey⟩
    · have hnext : fieldFor? (field :: fields) key = fieldFor? fields key := by
        rw [fieldFor?, List.find?_cons_of_neg (by simpa [hfilled.key_eq] using Ne.symm hkey)]
        rfl
      rw [hnext]
      rcases ih with ⟨q, hq, hfound⟩ | ⟨hnone, hother⟩
      · exact .inl ⟨q, List.mem_cons_of_mem _ hq, hfound⟩
      · exact .inr ⟨hnone, List.forall_mem_cons.2 ⟨hkey, hother⟩⟩

/-! ### Filling a section -/

/-- The components of `t` are those of `s` but for what the entries of a table say. -/
def Filled (components : List (Component σ)) (entries : Entries) (s t : σ) : Prop :=
  ∀ p ∈ components, Gives p.Says (p.get s) (entries.value? p.key) (p.get t)

theorem Complete.filled_nil {components : List (Component σ)} (h : Complete components) {s t : σ} :
    Filled components [] s t ↔ s = t := by
  constructor
  · intro hfilled
    exact h.ext s t fun p hp => (hfilled p hp).symm
  · rintro rfl p _
    rfl

/-- An entry with a key of no component changes nothing. -/
theorem filled_cons_of_ne {components : List (Component σ)} {key : Toml.Key} {node : Toml.Node}
    {entries : Entries} (hother : ∀ p ∈ components, key.chars ≠ p.key.toList) {s t : σ} :
    Filled components ((key, node) :: entries) s t ↔ Filled components entries s t := by
  refine forall₂_congr fun p hp => ?_
  rw [Entries.value?_cons_of_ne (hother p hp)]

/-- An entry with the key of a component is put in first. -/
theorem Complete.filled_cons {components : List (Component σ)} (h : Complete components)
    {p : Component σ} (hp : p ∈ components) {key : Toml.Key} (hkey : key.chars = p.key.toList)
    {node : Toml.Node} {entries : Entries} (hlater : entries.value? p.key = none) {s t : σ} :
    Filled components ((key, node) :: entries) s t ↔
      ∃ a, p.Says node.2 a ∧ Filled components entries (p.set a s) t := by
  -- Another component is given the same by both, since it does not see what is put in.
  have hothers : ∀ q ∈ components, q ≠ p → ∀ a,
      (Gives q.Says (q.get s) (Entries.value? ((key, node) :: entries) q.key) (q.get t) ↔
        Gives q.Says (q.get (p.set a s)) (entries.value? q.key) (q.get t)) := by
    intro q hq hne a
    have hapart := h.apart_of_ne hp hq hne
    have hkeys : key.chars ≠ q.key.toList := by
      rw [hkey]
      exact fun hsame => hapart.key_ne (String.toList_inj.1 hsame).symm
    rw [Entries.value?_cons_of_ne hkeys, hapart.get_set]
  constructor
  · intro hfilled
    have hself := hfilled p hp
    rw [Entries.value?_cons_self hkey] at hself
    refine ⟨p.get t, hself, fun q hq => ?_⟩
    by_cases hne : q = p
    · subst hne
      rw [hlater, q.get_set]
      rfl
    · exact (hothers q hq hne _).1 (hfilled q hq)
  · rintro ⟨a, hsays, hfilled⟩ q hq
    by_cases hne : q = p
    · subst hne
      have hkept := hfilled q hq
      rw [hlater, q.get_set] at hkept
      have hget : q.get t = a := hkept
      rw [Entries.value?_cons_self hkey, hget]
      exact hsays
    · exact (hothers q hq hne a).2 (hfilled q hq)

/-- **A table fills each component on its own.** A table that is closed has to have keys of
    components only; keys of others do no harm elsewhere. -/
theorem Complete.putEntries_eq_ok_iff {components : List (Component σ)}
    {fields : List (Field σ)} (h : Complete components)
    (hfields : List.Forall₂ FilledBy components fields) {closed : Bool} {entries : Entries}
    (sorted : entries.Pairwise fun e f => e.1.chars < f.1.chars)
    (fits : ∀ p ∈ components, ∀ v, entries.value? p.key = some v → p.Fits v) {s t : σ} :
    putEntries closed fields entries s = .ok t ↔
      (closed = true → ∀ e ∈ entries, ∃ p ∈ components, e.1.chars = p.key.toList) ∧
        Filled components entries s t := by
  induction entries generalizing s with
  | nil => simp [putEntries, h.filled_nil]
  | cons e entries ih =>
    obtain ⟨key, node⟩ := e
    have hsorted := (List.pairwise_cons.1 sorted).2
    have hfits : ∀ p ∈ components, ∀ v, Entries.value? entries p.key = some v → p.Fits v := by
      intro p hp v hv
      apply fits p hp v
      by_cases hkey : key.chars = p.key.toList
      · rw [Entries.value?_of_sorted sorted hkey] at hv
        cases hv
      · rw [Entries.value?_cons_of_ne hkey, hv]
    rw [putEntries]
    rcases fieldFor?_of_filled hfields key.chars with
      ⟨p, hp, field, hfound, hfilled, hkey⟩ | ⟨hnone, hother⟩
    · have hlater := Entries.value?_of_sorted sorted hkey
      have hfit := fits p hp _ (Entries.value?_cons_self hkey node entries)
      rw [hfound]
      dsimp only
      constructor
      · intro hput
        obtain ⟨between, hfirst, hrest⟩ := exists_of_bind_eq_ok hput
        obtain ⟨a, hsays, rfl⟩ := (hfilled.put_eq_ok _ _ _ _ hfit).1 hfirst
        obtain ⟨hknown, hfill⟩ := (ih hsorted hfits).1 hrest
        exact ⟨fun hclosed => List.forall_mem_cons.2 ⟨⟨p, hp, hkey⟩, hknown hclosed⟩,
          (h.filled_cons hp hkey hlater).2 ⟨a, hsays, hfill⟩⟩
      · rintro ⟨hknown, hfill⟩
        obtain ⟨a, hsays, hfill⟩ := (h.filled_cons hp hkey hlater).1 hfill
        rw [(hfilled.put_eq_ok _ _ _ _ hfit).2 ⟨a, hsays, rfl⟩]
        exact (ih hsorted hfits).2
          ⟨fun hclosed => (List.forall_mem_cons.1 (hknown hclosed)).2, hfill⟩
    · rw [hnone, filled_cons_of_ne hother]
      cases closed with
      | false => simpa using ih hsorted hfits
      | true =>
        constructor
        · intro hput
          cases hput
        · rintro ⟨hknown, -⟩
          obtain ⟨p, hp, hkey⟩ := (List.forall_mem_cons.1 (hknown rfl)).1
          exact absurd hkey (hother p hp)

end Component

end Config

end LoggerTree
