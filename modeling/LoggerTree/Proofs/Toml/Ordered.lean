import LoggerTree.Toml.Document
import Mathlib.Data.Char
import Mathlib.Data.List.Lex

/-! # Tables in order

    A document may write the entries of a table in any order and in many places. In what is read,
    the entries of each table are in order of their keys, at any depth, and no key comes twice.

    Main statement: `Document.ordered_of_parse?`.
-/

namespace LoggerTree.Toml

/-! ### Values in order -/

/-- All tables of a value, at any depth, have their entries in order of the keys. -/
inductive Value.Ordered : Value → Prop where
  | string (chars : List Char) : Ordered (.string chars)
  | integer (n : Int) : Ordered (.integer n)
  | lookalike : Ordered .lookalike
  | float (x : Float) : Ordered (.float x)
  | boolean (b : Bool) : Ordered (.boolean b)
  | datetime (chars : List Char) : Ordered (.datetime chars)
  | array (ofTables : Bool) {items : List Node} (items_ordered : ∀ item ∈ items, Ordered item.2) :
    Ordered (.array ofTables items)
  | table (origin : Origin) {entries : Entries}
    (sorted : entries.Pairwise fun e f => e.1.chars < f.1.chars)
    (entries_ordered : ∀ e ∈ entries, Ordered e.2.2) : Ordered (.table origin entries)

/-- The entries are in order of their keys, and so is all that is in them. -/
structure Entries.Ordered (entries : Entries) : Prop where
  sorted : entries.Pairwise fun e f => e.1.chars < f.1.chars
  values : ∀ e ∈ entries, e.2.2.Ordered

theorem Value.ordered_table {origin : Origin} {entries : Entries} :
    Value.Ordered (.table origin entries) ↔ Entries.Ordered entries := by
  constructor
  · intro h
    cases h with
    | table _ sorted values => exact ⟨sorted, values⟩
  · intro h
    exact .table origin h.sorted h.values

theorem Value.ordered_array {ofTables : Bool} {items : List Node} :
    Value.Ordered (.array ofTables items) ↔ ∀ item ∈ items, item.2.Ordered := by
  constructor
  · intro h
    cases h with
    | array _ items_ordered => exact items_ordered
  · exact .array ofTables

namespace Entries

theorem ordered_nil : Ordered [] :=
  ⟨.nil, by simp⟩

/-! ### Adding entries -/

theorem mem_insert {key : Key} {node : Node} {entries : Entries} {e : Key × Node}
    (h : e ∈ insert key node entries) : e = (key, node) ∨ e ∈ entries := by
  induction entries with
  | nil => exact .inl (List.mem_singleton.1 h)
  | cons d entries ih =>
    rw [insert] at h
    split at h
    · rcases List.mem_cons.1 h with rfl | h
      · exact .inl rfl
      · exact .inr (List.mem_cons_of_mem d h)
    · split at h
      · rcases List.mem_cons.1 h with rfl | h
        · exact .inr List.mem_cons_self
        · rcases ih h with rfl | h
          · exact .inl rfl
          · exact .inr (List.mem_cons_of_mem d h)
      · rcases List.mem_cons.1 h with rfl | h
        · exact .inl rfl
        · exact .inr h

theorem sorted_insert {entries : Entries} (key : Key) (node : Node)
    (h : entries.Pairwise fun e f => e.1.chars < f.1.chars) :
    (insert key node entries).Pairwise fun e f => e.1.chars < f.1.chars := by
  induction entries with
  | nil => exact List.pairwise_singleton _ _
  | cons d entries ih =>
    obtain ⟨hd, hentries⟩ := List.pairwise_cons.1 h
    rw [insert]
    split
    · next heq =>
      rw [heq] at hd
      exact List.pairwise_cons.2 ⟨hd, hentries⟩
    · next hne =>
      split
      · next hlt =>
        refine List.pairwise_cons.2 ⟨?_, ih hentries⟩
        intro e he
        rcases mem_insert he with rfl | he
        · exact hlt
        · exact hd e he
      · next hnlt =>
        -- The new key comes before all others.
        have hfirst : key.chars < d.1.chars :=
          lt_of_le_of_ne (not_lt.1 hnlt) (Ne.symm hne)
        refine List.pairwise_cons.2 ⟨?_, h⟩
        intro e he
        rcases List.mem_cons.1 he with rfl | he
        · exact hfirst
        · exact hfirst.trans (hd e he)

theorem Ordered.insert {entries : Entries} (h : Ordered entries) (key : Key) {node : Node}
    (hnode : node.2.Ordered) : Ordered (insert key node entries) where
  sorted := sorted_insert key node h.sorted
  values e he := by
    rcases mem_insert he with rfl | he
    · exact hnode
    · exact h.values e he

theorem Ordered.of_find? {entries : Entries} (h : Ordered entries) {key : List Char}
    {e : Key × Node} (found : find? entries key = some e) : e.2.2.Ordered :=
  h.values e (List.mem_of_find?_eq_some found)

/-- Whatever a change keeps in order inside a table, it keeps in order from outside. -/
theorem Ordered.alter {dotted : Bool} {change : Origin → Entries → Option Entries}
    (hchange : ∀ origin entries after, Ordered entries → change origin entries = some after →
      Ordered after) {path : List Key} {origin : Origin} {entries after : Entries}
    (h : Ordered entries) (haltered : alter dotted change path origin entries = some after) :
    Ordered after := by
  induction path generalizing origin entries after with
  | nil => exact hchange origin entries after h haltered
  | cons key path ih =>
    rw [Entries.alter] at haltered
    split at haltered
    · obtain ⟨inner, hinner, rfl⟩ := Option.map_eq_some_iff.1 haltered
      exact h.insert key (Value.ordered_table.2 (ih ordered_nil hinner))
    · next old span origin inner found =>
      split at haltered
      · cases haltered
      · obtain ⟨inner', hinner, rfl⟩ := Option.map_eq_some_iff.1 haltered
        exact h.insert old (Value.ordered_table.2
          (ih (Value.ordered_table.1 (h.of_find? found)) hinner))
    · next old span items found =>
      have hitems := Value.ordered_array.1 (h.of_find? found)
      split at haltered
      · next itemSpan origin inner hlast =>
        obtain ⟨inner', hinner, rfl⟩ := Option.map_eq_some_iff.1 haltered
        have hold := Value.ordered_table.1 (hitems _ (List.mem_of_getLast? hlast))
        refine h.insert old (Value.ordered_array.2 ?_)
        intro item hitem
        rcases List.mem_append.1 hitem with hitem | hitem
        · exact hitems item (List.dropLast_subset items hitem)
        · rw [List.mem_singleton.1 hitem]
          exact Value.ordered_table.2 (ih hold hinner)
      · cases haltered
    · cases haltered

theorem Ordered.define {entries after : Entries} (h : Ordered entries) {path : List Key}
    {key : Key} {node : Node} {origin : Origin} (hnode : node.2.Ordered)
    (hdefined : define path key node origin entries = some after) : Ordered after := by
  refine h.alter ?_ hdefined
  intro origin inner after hinner hchange
  split at hchange
  · cases hchange
  · cases hchange
    exact hinner.insert key hnode

end Entries

/-! ### Readers -/

/-- What a reader gives has a property, whatever it reads. -/
def Reader.Gives {α : Type} (reader : Reader α) (P : α → Prop) : Prop :=
  ∀ tokens a rest, reader tokens = some (a, rest) → P a

theorem foldlM_keeps {α β : Type} {P : β → Prop} {step : β → α → Option β} {as : List α}
    (hstep : ∀ a ∈ as, ∀ b c, P b → step b a = some c → P c) {b c : β} (hb : P b)
    (h : as.foldlM step b = some c) : P c := by
  induction as generalizing b with
  | nil =>
    cases h
    exact hb
  | cons a as ih =>
    rw [List.foldlM_cons] at h
    obtain ⟨d, hd, h⟩ := Option.bind_eq_some_iff.1 h
    exact ih (fun x hx => hstep x (List.mem_cons_of_mem a hx))
      (hstep a List.mem_cons_self b d hb hd) h

namespace Document

theorem gives_itemsUntil {α : Type} {close : TokenKind} {item : Reader α} {P : α → Prop}
    (hitem : item.Gives P) : Reader.Gives (itemsUntil close item) fun r => ∀ a ∈ r.1, P a := by
  intro tokens
  fun_induction itemsUntil close item tokens with
  | case1 => intro r rest h; cases h
  | case2 tokens t rest htokens hclose =>
    intro r after h
    cases h
    simp
  | case3 => intro r rest h; cases h
  | case4 => intro r rest h; cases h
  | case5 tokens t rest htokens hopen a after ha last more hmore hclose =>
    intro r rest h
    cases h
    intro b hb
    rw [List.mem_singleton.1 hb]
    exact hitem _ a after ha
  | case6 tokens t rest htokens hopen a after ha comma more hmore hno hcomma ih =>
    intro r rest h
    obtain ⟨r', hr', heq⟩ := Option.map_eq_some_iff.1 h
    cases heq
    intro b hb
    rcases List.mem_cons.1 hb with rfl | hb
    · exact hitem _ b after ha
    · exact ih _ _ hr' b hb
  | case7 => intro r rest h; cases h

theorem gives_binding {isGap : Token → Bool} {value : Reader Node}
    (hvalue : value.Gives fun node => node.2.Ordered) :
    Reader.Gives (binding isGap value) fun r => r.2.2.Ordered := by
  intro tokens r rest h
  unfold binding at h
  obtain ⟨⟨key, after⟩, -, h⟩ := Option.bind_eq_some_iff.1 h
  dsimp only at h
  split at h
  · obtain ⟨⟨node, after⟩, hnode, h⟩ := Option.bind_eq_some_iff.1 h
    cases h
    exact hvalue _ node _ hnode
  · cases h

theorem ordered_of_value? {s : List Char} {v : Value} (h : Scalar.value? s = some v) :
    v.Ordered := by
  unfold Scalar.value? at h
  split at h
  · cases h
    exact .boolean true
  · split at h
    · cases h
      exact .boolean false
    · split at h
      · cases h
        exact .integer _
      · cases h
        exact .float _
      · cases h
        exact .datetime _
      · split at h
        · cases h
          exact .lookalike
        · cases h

theorem gives_scalar : Reader.Gives scalar fun node => node.2.Ordered := by
  intro tokens node rest h
  unfold scalar at h
  dsimp only at h
  -- Whichever tokens are taken, there is a first one and a last one, and a value between them.
  obtain ⟨first, -, h⟩ := Option.bind_eq_some_iff.1 h
  obtain ⟨last, -, h⟩ := Option.bind_eq_some_iff.1 h
  obtain ⟨v, hv, h⟩ := Option.bind_eq_some_iff.1 h
  cases h
  exact ordered_of_value? hv

theorem ordered_of_defineAll {origin : Origin} {entries after : Entries}
    {bindings : List ((List Key × Key) × Node)} (h : entries.Ordered)
    (hbindings : ∀ b ∈ bindings, b.2.2.Ordered)
    (hdefined : defineAll origin entries bindings = some after) : after.Ordered := by
  refine foldlM_keeps ?_ h hdefined
  intro b hb before later hbefore hlater
  exact hbefore.define (hbindings b hb) hlater

/-- A value is in order if those between its brackets or braces are. -/
theorem gives_value_of_inner {depth : Nat} (ih : ∀ inner, depth = inner + 1 →
    Reader.Gives (value inner) fun node => node.2.Ordered) :
    Reader.Gives (value depth) fun node => node.2.Ordered := by
  intro tokens node rest h
  unfold value at h
  split at h
  · cases h
  · split at h
    · cases h
      exact .string _
    · next inner _ =>
      obtain ⟨⟨⟨items, last⟩, after⟩, hitems, h⟩ := Option.bind_eq_some_iff.1 h
      cases h
      exact .array _ (gives_itemsUntil (ih inner rfl) _ _ _ hitems)
    · next inner _ =>
      obtain ⟨⟨⟨bindings, last⟩, after⟩, hbindings, h⟩ := Option.bind_eq_some_iff.1 h
      obtain ⟨entries, hentries, h⟩ := Option.bind_eq_some_iff.1 h
      cases h
      have hvalues := gives_itemsUntil (gives_binding (ih inner rfl)) _ _ _ hbindings
      exact Value.ordered_table.2 (ordered_of_defineAll Entries.ordered_nil hvalues hentries)
    · exact gives_scalar _ _ _ h

theorem gives_value (depth : Nat) : Reader.Gives (value depth) fun node => node.2.Ordered := by
  induction depth with
  | zero => exact gives_value_of_inner nofun
  | succ depth ih =>
    apply gives_value_of_inner
    intro inner heq
    cases heq
    exact ih

/-! ### Statements -/

/-- The value of a statement, if it has one, is in order. -/
def Statement.Ordered : Statement → Prop
  | .header .. => True
  | .binding _ _ node => node.2.Ordered

theorem gives_header : Reader.Gives header Statement.Ordered := by
  intro tokens s rest h
  unfold header at h
  split at h
  · obtain ⟨r, -, h⟩ := Option.bind_eq_some_iff.1 h
    dsimp only at h
    split at h
    · cases h
      exact trivial
    · cases h
  · obtain ⟨r, -, h⟩ := Option.bind_eq_some_iff.1 h
    dsimp only at h
    split at h
    · cases h
      exact trivial
    · cases h
  · cases h

theorem gives_statement : Reader.Gives statement Statement.Ordered := by
  intro tokens s rest h
  unfold statement at h
  split at h
  · exact gives_header _ _ _ h
  · obtain ⟨r, hr, heq⟩ := Option.map_eq_some_iff.1 h
    cases heq
    exact gives_binding (gives_value depthLimit) _ _ _ hr

theorem ordered_of_statements {tokens : List Token} {ss : List Statement}
    (h : statements tokens = some ss) : ∀ s ∈ ss, s.Ordered := by
  fun_induction statements tokens generalizing ss with
  | case1 tokens htrivia =>
    cases h
    simp
  | case2 tokens t rest htrivia ih =>
    obtain ⟨⟨first, after⟩, hfirst, h⟩ := Option.bind_eq_some_iff.1 h
    obtain ⟨next, -, h⟩ := Option.bind_eq_some_iff.1 h
    split at h
    · next hshorter =>
      obtain ⟨others, hothers, h⟩ := Option.bind_eq_some_iff.1 h
      cases h
      exact List.forall_mem_cons.2 ⟨gives_statement _ _ _ hfirst, ih next hshorter hothers⟩
    · cases h

/-! ### Building -/

theorem ordered_of_sections {ss : List Statement} (h : ∀ s ∈ ss, s.Ordered) :
    (∀ b ∈ (sections ss).1, b.2.2.Ordered) ∧
      ∀ part ∈ (sections ss).2, ∀ b ∈ part.bindings, b.2.2.Ordered := by
  induction ss with
  | nil => simp [sections]
  | cons s ss ih =>
    obtain ⟨hs, hss⟩ := List.forall_mem_cons.1 h
    obtain ⟨hbindings, hparts⟩ := ih hss
    cases s with
    | header doubled path key span =>
      exact ⟨by simp [sections], List.forall_mem_cons.2 ⟨hbindings, hparts⟩⟩
    | binding path key node => exact ⟨List.forall_mem_cons.2 ⟨hs, hbindings⟩, hparts⟩

theorem ordered_of_addSection {root after : Entries} {s : Section} (hroot : root.Ordered)
    (hbindings : ∀ b ∈ s.bindings, b.2.2.Ordered) (h : addSection root s = some after) :
    after.Ordered := by
  refine hroot.alter ?_ h
  intro origin entries later hentries hlater
  split at hlater
  · obtain ⟨inner, hinner, hlater⟩ := Option.bind_eq_some_iff.1 hlater
    cases hlater
    have hnew := ordered_of_defineAll Entries.ordered_nil hbindings hinner
    exact hentries.insert s.key (Value.ordered_table.2 hnew)
  · next before _ found =>
    obtain ⟨inner, hinner, hlater⟩ := Option.bind_eq_some_iff.1 hlater
    cases hlater
    have hbefore := Value.ordered_table.1 (hentries.of_find? found)
    have hnew := ordered_of_defineAll hbefore hbindings hinner
    exact hentries.insert s.key (Value.ordered_table.2 hnew)
  · obtain ⟨inner, hinner, hlater⟩ := Option.bind_eq_some_iff.1 hlater
    cases hlater
    have hnew := ordered_of_defineAll Entries.ordered_nil hbindings hinner
    refine hentries.insert s.key (Value.ordered_array.2 ?_)
    intro item hitem
    rw [List.mem_singleton.1 hitem]
    exact Value.ordered_table.2 hnew
  · next key span items _ found =>
    obtain ⟨inner, hinner, hlater⟩ := Option.bind_eq_some_iff.1 hlater
    cases hlater
    have hnew := ordered_of_defineAll Entries.ordered_nil hbindings hinner
    refine hentries.insert key (Value.ordered_array.2 ?_)
    -- The new table stands behind those that the array has had.
    intro item hitem
    rcases List.mem_append.1 hitem with hitem | hitem
    · exact Value.ordered_array.1 (hentries.of_find? found) item hitem
    · rw [List.mem_singleton.1 hitem]
      exact Value.ordered_table.2 hnew
  · cases hlater

theorem ordered_of_build {ss : List Statement} (h : ∀ s ∈ ss, s.Ordered) {entries : Entries}
    (hbuild : build ss = some entries) : entries.Ordered := by
  obtain ⟨hbindings, hparts⟩ := ordered_of_sections h
  unfold build at hbuild
  obtain ⟨first, hfirst, hrest⟩ := Option.bind_eq_some_iff.1 hbuild
  refine foldlM_keeps ?_ (ordered_of_defineAll Entries.ordered_nil hbindings hfirst) hrest
  intro part hpart before after hbefore hafter
  exact ordered_of_addSection hbefore (hparts part hpart) hafter

/-- **What is read is in order**, however it was written. -/
theorem ordered_of_parse? {s : List Char} {entries : Entries} (h : parse? s = some entries) :
    entries.Ordered := by
  unfold parse? at h
  obtain ⟨tokens, -, h⟩ := Option.bind_eq_some_iff.1 h
  obtain ⟨ss, hss, hbuild⟩ := Option.bind_eq_some_iff.1 h
  exact ordered_of_build (ordered_of_statements hss) hbuild

end Document

end LoggerTree.Toml
