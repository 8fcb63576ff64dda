import LoggerTree.Config.Load
import LoggerTree.Proofs.Toml.Ordered

/-! # Keys in order

    A configuration lists the thresholds of names in order of their keys, no key twice. So does
    every one that is read from a text, since the tables of a document are in order.

    Main statement: `Config.ordered_of_ofRead`.
-/

namespace LoggerTree

/-- The keys are in code-point order, and none comes twice. -/
def FilterConfig.Ordered (f : FilterConfig) : Prop :=
  f.loggers.Pairwise fun e g => e.1 < g.1

namespace Config

/-- The keys of the thresholds are in code-point order, and none comes twice. -/
def Ordered (c : Config) : Prop :=
  c.filter.Ordered

theorem ordered_default : Ordered {} :=
  .nil

theorem exists_of_bind_eq_ok {ε α β : Type} {x : Except ε α} {f : α → Except ε β} {b : β}
    (h : x.bind f = .ok b) : ∃ a, x = .ok a ∧ f a = .ok b := by
  cases x with
  | error e => cases h
  | ok a => exact ⟨a, rfl, h⟩

/-! ### Sections -/

/-- Whatever is put into a field, as long as it is in order, does a section no harm. -/
def Field.Keeps {σ : Type} (P : σ → Prop) (field : Field σ) : Prop :=
  ∀ blamed node s t, node.2.Ordered → P s → field.put blamed node s = .ok t → P t

section

variable {σ : Type} {P : σ → Prop} {fields : List (Field σ)} (hfields : ∀ f ∈ fields, f.Keeps P)

include hfields

theorem putEntries_keeps {closed : Bool} {entries : Toml.Entries}
    (hentries : ∀ e ∈ entries, e.2.2.Ordered) {s t : σ} (hs : P s)
    (h : putEntries closed fields entries s = .ok t) : P t := by
  induction entries generalizing s with
  | nil =>
    cases h
    exact hs
  | cons e entries ih =>
    obtain ⟨key, node⟩ := e
    obtain ⟨hnode, hentries⟩ := List.forall_mem_cons.1 hentries
    rw [putEntries] at h
    split at h
    · next field found =>
      obtain ⟨after, hafter, h⟩ := exists_of_bind_eq_ok h
      have hfield := hfields field (List.mem_of_find?_eq_some found)
      exact ih hentries (hfield _ _ _ _ hnode hs hafter) h
    · split at h
      · cases h
      · exact ih hentries hs h

theorem putItems_keeps {whole : Toml.Span} {items : List Toml.Node}
    (hitems : ∀ item ∈ items, item.2.Ordered) {s t : σ} (hs : P s)
    (h : putItems whole fields items s = .ok t) : P t := by
  induction items generalizing fields s with
  | nil =>
    cases fields <;>
    · cases h
      exact hs
  | cons node items ih =>
    obtain ⟨hnode, hitems⟩ := List.forall_mem_cons.1 hitems
    cases fields with
    | nil =>
      cases h
      exact hs
    | cons field fields =>
      obtain ⟨hfield, hfields⟩ := List.forall_mem_cons.1 hfields
      rw [putItems] at h
      obtain ⟨after, hafter, h⟩ := exists_of_bind_eq_ok h
      exact ih hfields hitems (hfield _ _ _ _ hnode hs hafter) h

theorem decodeSection_keeps {noun : String} {start t : σ} {node : Toml.Node}
    (hnode : node.2.Ordered) (hstart : P start)
    (h : decodeSection noun fields start node = .ok t) : P t := by
  unfold decodeSection at h
  split at h
  · exact putEntries_keeps hfields (Toml.Value.ordered_table.1 hnode).values hstart h
  · exact putItems_keeps hfields (Toml.Value.ordered_array.1 hnode) hstart h
  · cases h
    exact hstart
  · cases h

end

/-! ### Thresholds -/

theorem map_of_mapM {ε α β γ : Type} {f : α → Except ε β} {g : β → γ} {k : α → γ}
    (hf : ∀ a b, f a = .ok b → g b = k a) {as : List α} {bs : List β}
    (h : as.mapM f = .ok bs) : bs.map g = as.map k := by
  induction as generalizing bs with
  | nil =>
    cases h
    rfl
  | cons a as ih =>
    rw [List.mapM_cons] at h
    obtain ⟨b, hb, h⟩ := exists_of_bind_eq_ok h
    obtain ⟨cs, hcs, h⟩ := exists_of_bind_eq_ok h
    cases h
    rw [List.map_cons, List.map_cons, hf a b hb, ih hcs]

/-- The keys are those of the table, in their order. -/
theorem ordered_of_decodeLoggers {node : Toml.Node} (hnode : node.2.Ordered)
    {loggers : List (List Char × Threshold)} (h : decodeLoggers node = .ok loggers) :
    loggers.Pairwise fun e g => e.1 < g.1 := by
  unfold decodeLoggers at h
  split at h
  · next entries =>
    have hsorted := (Toml.Value.ordered_table.1 hnode).sorted
    have hkeys : loggers.map (·.1) = entries.map (·.1.chars) := by
      refine map_of_mapM ?_ h
      intro e logger he
      obtain ⟨t, -, he⟩ := exists_of_bind_eq_ok he
      cases he
      rfl
    rw [← List.pairwise_map (f := fun e : List Char × Threshold => e.1) (R := (· < ·)), hkeys,
      List.pairwise_map]
    exact hsorted
  · cases h
  · cases h

theorem filterFields_keep : ∀ f ∈ filterFields, f.Keeps FilterConfig.Ordered := by
  intro f hf blamed node s t hnode hs h
  rcases List.mem_cons.1 hf with rfl | hf
  · obtain ⟨threshold, -, h⟩ := exists_of_bind_eq_ok h
    cases h
    exact hs
  · rw [List.mem_singleton.1 hf] at h
    obtain ⟨loggers, hloggers, h⟩ := exists_of_bind_eq_ok h
    cases h
    exact ordered_of_decodeLoggers hnode hloggers

/-! ### Configurations -/

theorem sectionFields_keep : ∀ f ∈ sectionFields, f.Keeps Ordered := by
  intro f hf blamed node s t hnode hs h
  simp only [sectionFields, List.mem_cons, List.not_mem_nil, or_false] at hf
  rcases hf with rfl | rfl | rfl
  · obtain ⟨naming, -, h⟩ := exists_of_bind_eq_ok h
    cases h
    exact hs
  · obtain ⟨filter, hfilter, h⟩ := exists_of_bind_eq_ok h
    cases h
    exact decodeSection_keeps filterFields_keep hnode ordered_default hfilter
  · obtain ⟨subscriber, -, h⟩ := exists_of_bind_eq_ok h
    cases h
    exact hs

theorem ordered_of_parse {text : List Char} {c : Config} (h : parse text = .ok c) :
    c.Ordered := by
  unfold parse at h
  split at h
  · cases h
  · next entries hentries =>
    split at h
    · next config hdecode =>
      split at h
      · cases h
        exact putEntries_keeps sectionFields_keep
          (Toml.Document.ordered_of_parse? hentries).values ordered_default hdecode
      · cases h
    · split at h <;> cases h

/-- **What is read from a file is in order.** -/
theorem ordered_of_ofRead {path : List Char} {content : Except FileError String} {c : Config}
    (h : ofRead path content = .ok c) : c.Ordered := by
  unfold ofRead at h
  obtain ⟨text, -, h⟩ := exists_of_bind_eq_ok h
  unfold ofText at h
  cases hparse : parse text.toList with
  | error e =>
    rw [hparse] at h
    cases h
  | ok config =>
    rw [hparse] at h
    cases h
    exact ordered_of_parse hparse

end Config

end LoggerTree
