import LoggerTree.Proofs.Config.Components
import Mathlib.Data.List.Forall2

/-! # What the sections say

    Five kinds of values have a meaning somewhere in a configuration: words, texts, truth values,
    thresholds, and tables of thresholds. The decoder takes a value for what it means, and it
    decodes a section component by component.

    Main statement: `Component.filled_config`.
-/

namespace LoggerTree

/-- Whether a value is a table. -/
def Toml.Value.isTable : Value → Bool
  | .table _ _ => true
  | _ => false

namespace Config

open Toml (Value Entries Node Span)

/-! ### What values say -/

/-- A word stands for one of several choices. -/
def IsChoice {α : Type} (choices : List (String × α)) (v : Value) (a : α) : Prop :=
  ∃ word, (word, a) ∈ choices ∧ v = .string word.toList

/-- Any text stands for itself. -/
def IsText (v : Value) (s : List Char) : Prop :=
  v = .string s

/-- So does a truth value. -/
def IsFlag (v : Value) (b : Bool) : Prop :=
  v = .boolean b

/-- A text stands for the threshold that is read from it. -/
def IsThreshold (v : Value) (t : Threshold) : Prop :=
  ∃ word, v = .string word ∧ Threshold.parse word = .ok t

/-- A table with a threshold for each key. -/
def AreThresholds (v : Value) (thresholds : List (List Char × Threshold)) : Prop :=
  ∃ origin entries, v = .table origin entries ∧
    List.Forall₂ (fun e t => t.1 = e.1.chars ∧ IsThreshold e.2.2 t.2) entries thresholds

/-- The words for the naming strategies. -/
def strategies : List (String × Strategy) :=
  [("type", .byType), ("by-type", .byType), ("symbol", .bySymbol), ("by-symbol", .bySymbol)]

/-- The words for the output formats. -/
def formats : List (String × OutputFormat) :=
  [("text", .text), ("json", .json)]

/-! ### Reading values -/

theorem decodeString_eq_ok_iff {node : Node} {s : List Char} :
    decodeString node = .ok s ↔ IsText node.2 s := by
  obtain ⟨span, v⟩ := node
  cases v <;> simp [decodeString, IsText]

theorem decodeBool_eq_ok_iff {node : Node} {b : Bool} :
    decodeBool node = .ok b ↔ IsFlag node.2 b := by
  obtain ⟨span, v⟩ := node
  cases v <;> simp [decodeBool, IsFlag]

theorem decodeThreshold_eq_ok_iff {blamed : Span} {node : Node} {t : Threshold} :
    decodeThreshold blamed node = .ok t ↔ IsThreshold node.2 t := by
  constructor
  · intro h
    obtain ⟨word, hword, h⟩ := exists_of_bind_eq_ok h
    refine ⟨word, decodeString_eq_ok_iff.1 hword, ?_⟩
    cases hparse : Threshold.parse word with
    | error e =>
      rw [hparse] at h
      cases h
    | ok read =>
      rw [hparse] at h
      cases h
      rfl
  · rintro ⟨word, hword, hparse⟩
    have hstring := decodeString_eq_ok_iff.2 hword
    unfold decodeThreshold
    rw [hstring]
    show (Threshold.parse word).mapError _ = _
    rw [hparse]
    rfl

/-- A choice that is no table is a word for one of the choices. -/
theorem decodeChoice_eq_ok_iff {α : Type} {ofWord? : String → Option α} {words : List String}
    {choices : List (String × α)} (hchoices : ∀ s a, ofWord? s = some a ↔ (s, a) ∈ choices)
    {node : Node} (hplain : node.2.isTable = false) {a : α} :
    decodeChoice ofWord? words node = .ok a ↔ IsChoice choices node.2 a := by
  obtain ⟨span, v⟩ := node
  cases v with
  | string word =>
    have hword : decodeChoice ofWord? words (span, .string word) = .ok a ↔
        ofWord? (String.ofList word) = some a := by
      simp only [decodeChoice, decodeWord]
      split
      next found => simp [found]
      next missing => simp [missing]
    rw [hword, hchoices]
    constructor
    · intro h
      exact ⟨_, h, by rw [String.toList_ofList]⟩
    · rintro ⟨s, hs, hsame⟩
      rw [Value.string.inj hsame, String.ofList_toList]
      exact hs
  | table origin entries => cases hplain
  | _ => simp [decodeChoice, IsChoice]

theorem ofWord?_strategy {s : String} {a : Strategy} :
    Strategy.ofWord? s = some a ↔ (s, a) ∈ strategies := by
  grind [Strategy.ofWord?, strategies]

theorem ofWord?_format {s : String} {a : OutputFormat} :
    OutputFormat.ofWord? s = some a ↔ (s, a) ∈ formats := by
  grind [OutputFormat.ofWord?, formats]

theorem mapM_eq_ok_iff {ε α β : Type} {f : α → Except ε β} {as : List α} {bs : List β} :
    as.mapM f = .ok bs ↔ List.Forall₂ (fun a b => f a = .ok b) as bs := by
  induction as generalizing bs with
  | nil =>
    rw [List.forall₂_nil_left_iff]
    exact ⟨fun h => (Except.ok.inj h).symm, fun h => h ▸ rfl⟩
  | cons a as ih =>
    rw [List.mapM_cons]
    constructor
    · intro h
      obtain ⟨b, hb, h⟩ := exists_of_bind_eq_ok h
      obtain ⟨rest, hrest, h⟩ := exists_of_bind_eq_ok h
      cases h
      exact .cons hb (ih.1 hrest)
    · intro h
      cases h with
      | cons hb hrest =>
        rw [hb, ih.2 hrest]
        rfl

theorem areThresholds_table {origin : Toml.Origin} {entries : Entries}
    {thresholds : List (List Char × Threshold)} :
    AreThresholds (.table origin entries) thresholds ↔
      List.Forall₂ (fun e t => t.1 = e.1.chars ∧ IsThreshold e.2.2 t.2) entries thresholds := by
  constructor
  · rintro ⟨_, _, hsame, h⟩
    cases hsame
    exact h
  · intro h
    exact ⟨origin, entries, rfl, h⟩

theorem decodeLoggers_eq_ok_iff {node : Node} {thresholds : List (List Char × Threshold)} :
    decodeLoggers node = .ok thresholds ↔ AreThresholds node.2 thresholds := by
  obtain ⟨span, v⟩ := node
  cases v with
  | table origin entries =>
    have hentry : ∀ (e : Toml.Key × Node) (t : List Char × Threshold),
        ((decodeThreshold e.2.1 e.2).bind fun read => .ok (e.1.chars, read)) = .ok t ↔
          t.1 = e.1.chars ∧ IsThreshold e.2.2 t.2 := by
      intro e t
      constructor
      · intro h
        obtain ⟨read, hread, h⟩ := exists_of_bind_eq_ok h
        cases h
        exact ⟨rfl, decodeThreshold_eq_ok_iff.1 hread⟩
      · rintro ⟨hkey, hread⟩
        rw [decodeThreshold_eq_ok_iff.2 hread, ← hkey]
        rfl
    rw [areThresholds_table, decodeLoggers, mapM_eq_ok_iff]
    exact ⟨fun h => h.imp fun e t => (hentry e t).1, fun h => h.imp fun e t => (hentry e t).2⟩
  | _ => simp [decodeLoggers, AreThresholds]

/-! ### The components of the sections -/

/-- How singletons are named. -/
def namingComponents : List (Component NamingConfig) :=
  [⟨"strategy", Strategy, (·.strategy), fun a s => { s with strategy := a }, fun _ _ => rfl,
    fun v => v.isTable = false, IsChoice strategies⟩]

/-- The thresholds. -/
def filterComponents : List (Component FilterConfig) :=
  [⟨"default", Threshold, (·.fallback), fun a s => { s with fallback := a }, fun _ _ => rfl,
    fun _ => True, IsThreshold⟩,
   ⟨"loggers", _, (·.loggers), fun a s => { s with loggers := a }, fun _ _ => rfl,
    fun _ => True, AreThresholds⟩]

/-- How the subscriber writes. -/
def subscriberComponents : List (Component SubscriberConfig) :=
  [⟨"level", _, (·.level), fun a s => { s with level := a }, fun _ _ => rfl,
    fun _ => True, IsText⟩,
   ⟨"format", OutputFormat, (·.format), fun a s => { s with format := a }, fun _ _ => rfl,
    fun v => v.isTable = false, IsChoice formats⟩,
   ⟨"output", _, (·.output), fun a s => { s with output := a }, fun _ _ => rfl,
    fun _ => True, IsText⟩,
   ⟨"color", Bool, (·.color), fun a s => { s with color := a }, fun _ _ => rfl,
    fun _ => True, IsFlag⟩,
   ⟨"timestamps", Bool, (·.timestamps), fun a s => { s with timestamps := a }, fun _ _ => rfl,
    fun _ => True, IsFlag⟩,
   ⟨"target", Bool, (·.target), fun a s => { s with target := a }, fun _ _ => rfl,
    fun _ => True, IsFlag⟩]

/-- A section of a document as a component of the whole: a table says what its entries say about
    the components of the section. -/
def partComponent {τ : Type} (key : String) (get : Config → τ) (set : τ → Config → Config)
    (get_set : ∀ a c, get (set a c) = a) (components : List (Component τ)) (start : τ) :
    Component Config where
  key := key
  Content := τ
  get := get
  set := set
  get_set := get_set
  Fits v := ∃ origin entries, v = .table origin entries ∧
    (entries.Pairwise fun e f => e.1.chars < f.1.chars) ∧
      ∀ p ∈ components, ∀ w, Entries.value? entries p.key = some w → p.Fits w
  Says v a := ∃ origin entries, v = .table origin entries ∧
    Component.Filled components entries start a

/-- The sections. -/
def configComponents : List (Component Config) :=
  [partComponent "naming" (·.naming) (fun a c => { c with naming := a }) (fun _ _ => rfl)
    namingComponents {},
   partComponent "filter" (·.filter) (fun a c => { c with filter := a }) (fun _ _ => rfl)
    filterComponents {},
   partComponent "subscriber" (·.subscriber) (fun a c => { c with subscriber := a })
    (fun _ _ => rfl) subscriberComponents {}]

namespace Component

theorem complete_naming : Complete namingComponents where
  apart := List.pairwise_singleton _ _
  ext s t h := by
    have hstrategy := h _ List.mem_cons_self
    cases s
    cases t
    exact congrArg NamingConfig.mk hstrategy

theorem complete_filter : Complete filterComponents where
  apart := by
    refine List.pairwise_pair.2 ?_
    exact ⟨by decide, fun _ _ => rfl, fun _ _ => rfl⟩
  ext s t h := by
    simp only [filterComponents, List.forall_mem_cons] at h
    obtain ⟨hfallback, hloggers, -⟩ := h
    cases s
    cases t
    exact congrArg₂ FilterConfig.mk hfallback hloggers

theorem complete_subscriber : Complete subscriberComponents where
  apart := by
    -- No two of the six have a key or a part in common.
    simp only [subscriberComponents, List.pairwise_cons, List.forall_mem_cons,
      List.not_mem_nil, false_imp_iff, implies_true, List.Pairwise.nil, and_true]
    and_intros
    all_goals exact ⟨by decide, fun _ _ => rfl, fun _ _ => rfl⟩
  ext s t h := by
    simp only [subscriberComponents, List.forall_mem_cons] at h
    obtain ⟨hlevel, hformat, houtput, hcolor, htimestamps, htarget, -⟩ := h
    cases s
    cases t
    cases hlevel
    cases hformat
    cases houtput
    cases hcolor
    cases htimestamps
    cases htarget
    rfl

theorem complete_config : Complete configComponents where
  apart := by
    simp only [configComponents, List.pairwise_cons, List.forall_mem_cons,
      List.not_mem_nil, false_imp_iff, implies_true, List.Pairwise.nil, and_true]
    and_intros
    all_goals exact ⟨by decide, fun _ _ => rfl, fun _ _ => rfl⟩
  ext s t h := by
    simp only [configComponents, List.forall_mem_cons] at h
    obtain ⟨hnaming, hfilter, hsubscriber, -⟩ := h
    cases s
    cases t
    cases hnaming
    cases hfilter
    cases hsubscriber
    rfl

theorem filled_naming : List.Forall₂ FilledBy namingComponents namingFields :=
  .cons (filledBy_of_decode rfl (fun _ _ _ => rfl) fun _ _ _ hplain =>
    decodeChoice_eq_ok_iff (fun _ _ => ofWord?_strategy) hplain) .nil

theorem filled_filter : List.Forall₂ FilledBy filterComponents filterFields :=
  .cons (filledBy_of_decode rfl (fun _ _ _ => rfl) fun _ _ _ _ => decodeThreshold_eq_ok_iff) <|
  .cons (filledBy_of_decode rfl (fun _ _ _ => rfl) fun _ _ _ _ => decodeLoggers_eq_ok_iff) .nil

theorem filled_subscriber : List.Forall₂ FilledBy subscriberComponents subscriberFields :=
  .cons (filledBy_of_decode rfl (fun _ _ _ => rfl) fun _ _ _ _ => decodeString_eq_ok_iff) <|
  .cons (filledBy_of_decode rfl (fun _ _ _ => rfl) fun _ _ _ hplain =>
    decodeChoice_eq_ok_iff (fun _ _ => ofWord?_format) hplain) <|
  .cons (filledBy_of_decode rfl (fun _ _ _ => rfl) fun _ _ _ _ => decodeString_eq_ok_iff) <|
  .cons (filledBy_of_decode rfl (fun _ _ _ => rfl) fun _ _ _ _ => decodeBool_eq_ok_iff) <|
  .cons (filledBy_of_decode rfl (fun _ _ _ => rfl) fun _ _ _ _ => decodeBool_eq_ok_iff) <|
  .cons (filledBy_of_decode rfl (fun _ _ _ => rfl) fun _ _ _ _ => decodeBool_eq_ok_iff) .nil

/-- A section is decoded component by component. -/
theorem Complete.decodeSection_eq_ok_iff {τ : Type} {noun key : String} {get : Config → τ}
    {set : τ → Config → Config} {get_set : ∀ a c, get (set a c) = a}
    {components : List (Component τ)} {fields : List (Field τ)} {start : τ}
    (h : Complete components) (hfields : List.Forall₂ FilledBy components fields) {node : Node}
    {a : τ} (hfits : (partComponent key get set get_set components start).Fits node.2) :
    decodeSection noun fields start node = .ok a ↔
      (partComponent key get set get_set components start).Says node.2 a := by
  obtain ⟨span, v⟩ := node
  obtain ⟨origin, entries, rfl, hsorted, hfit⟩ := hfits
  have hput : decodeSection noun fields start (span, .table origin entries) = .ok a ↔
      Filled components entries start a := by
    show putEntries false fields entries start = .ok a ↔ _
    rw [h.putEntries_eq_ok_iff hfields hsorted hfit]
    simp
  rw [hput]
  constructor
  · intro hfilled
    exact ⟨origin, entries, rfl, hfilled⟩
  · rintro ⟨_, _, hsame, hfilled⟩
    cases hsame
    exact hfilled

theorem filled_config : List.Forall₂ FilledBy configComponents sectionFields :=
  .cons (filledBy_of_decode rfl (fun _ _ _ => rfl) fun _ _ _ hfits =>
    complete_naming.decodeSection_eq_ok_iff filled_naming hfits) <|
  .cons (filledBy_of_decode rfl (fun _ _ _ => rfl) fun _ _ _ hfits =>
    complete_filter.decodeSection_eq_ok_iff filled_filter hfits) <|
  .cons (filledBy_of_decode rfl (fun _ _ _ => rfl) fun _ _ _ hfits =>
    complete_subscriber.decodeSection_eq_ok_iff filled_subscriber hfits) .nil

end Component

end Config

end LoggerTree
