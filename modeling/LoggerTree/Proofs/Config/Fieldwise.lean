import LoggerTree.Proofs.Config.Readings

/-! # Configurations field by field

    What a configuration file says is a matter of nine keys in three sections. Each has a meaning
    of its own, which no other key changes, and a default.

    Main statement: `parse_fieldwise`. It is about documents that write the sections as tables
    and both choices as words, as all but a few do.
-/

namespace LoggerTree

/-! ### Values that say the same -/

namespace Toml

mutual

/-- Whether two values are the same but for where and how they were written. -/
def Value.alike : Value → Value → Bool
  | .string s, .string t => s == t
  | .integer n, .integer m => n == m
  | .lookalike, .lookalike => true
  | .float x, .float y => x == y
  | .boolean b, .boolean c => b == c
  | .datetime s, .datetime t => s == t
  | .array _ xs, .array _ ys => itemsAlike xs ys
  | .table _ es, .table _ fs => entriesAlike es fs
  | _, _ => false

/-- As `Value.alike`, for the items of arrays. -/
def itemsAlike : List Node → List Node → Bool
  | [], [] => true
  | (_, v) :: xs, (_, w) :: ys => v.alike w && itemsAlike xs ys
  | _, _ => false

/-- As `Value.alike`, for the entries of tables. -/
def entriesAlike : Entries → Entries → Bool
  | [], [] => true
  | (k, _, v) :: es, (l, _, w) :: fs => k.chars == l.chars && v.alike w && entriesAlike es fs
  | _, _ => false

end

/-- Whether there are two such values, or none. -/
def alike? : Option Value → Option Value → Bool
  | some v, some w => v.alike w
  | none, none => true
  | _, _ => false

end Toml

namespace Config

open Toml (Value Entries)

/-! ### Settings -/

/-- A key that means something: its section, the part of a configuration that it is about, what
    values say about this part, and what holds without a value. -/
structure Setting where
  part : String
  key : String
  Content : Type
  get : Config → Content
  Says : Value → Content → Prop
  default : Content

/-- All keys that mean something. -/
def settings : List Setting :=
  [⟨"naming", "strategy", Strategy, (·.naming.strategy), IsChoice strategies, .byType⟩,
   ⟨"filter", "default", Threshold, (·.filter.fallback), IsThreshold, .atLeast .info⟩,
   ⟨"filter", "loggers", _, (·.filter.loggers), AreThresholds, []⟩,
   ⟨"subscriber", "level", _, (·.subscriber.level), IsText, "info".toList⟩,
   ⟨"subscriber", "format", _, (·.subscriber.format), IsChoice formats, .text⟩,
   ⟨"subscriber", "output", _, (·.subscriber.output), IsText, "stderr".toList⟩,
   ⟨"subscriber", "color", Bool, (·.subscriber.color), IsFlag, true⟩,
   ⟨"subscriber", "timestamps", Bool, (·.subscriber.timestamps), IsFlag, true⟩,
   ⟨"subscriber", "target", Bool, (·.subscriber.target), IsFlag, true⟩]

/-- The sections that there are. -/
def parts : List String :=
  ["naming", "filter", "subscriber"]

/-- The entries of a section. There are none if it is missing. -/
def entriesOf (doc : Entries) (part : String) : Entries :=
  match doc.value? part with
  | some (.table _ entries) => entries
  | _ => []

/-- The value of a key in a section. -/
def setting? (doc : Entries) (part key : String) : Option Value :=
  (entriesOf doc part).value? key

/-- The document has no entries but its sections. -/
def Known (doc : Entries) : Prop :=
  ∀ e ∈ doc, ∃ part ∈ parts, e.1.chars = part.toList

/-- Each value of a key that means something says something, taken by itself. -/
def Valid (doc : Entries) : Prop :=
  ∀ p ∈ settings, ∀ v, setting? doc p.part p.key = some v → ∃ a, p.Says v a

/-- Each part of a configuration is what the value of its key says, or the default. -/
def Describes (doc : Entries) (c : Config) : Prop :=
  ∀ p ∈ settings, Gives p.Says p.default (setting? doc p.part p.key) (p.get c)

/-- The sections are tables, and no choice is written as a table. -/
structure Plain (doc : Entries) : Prop where
  sections : ∀ part ∈ parts, ∀ v ∈ doc.value? part, v.isTable = true
  strategy : ∀ v ∈ setting? doc "naming" "strategy", v.isTable = false
  format : ∀ v ∈ setting? doc "subscriber" "format", v.isTable = false

instance (doc : Entries) : Decidable (Known doc) :=
  inferInstanceAs (Decidable (∀ e ∈ doc, ∃ part ∈ _, _))

instance (doc : Entries) : Decidable (Plain doc) :=
  decidable_of_iff
    ((∀ part ∈ parts, ∀ v ∈ doc.value? part, v.isTable = true) ∧
      (∀ v ∈ setting? doc "naming" "strategy", v.isTable = false) ∧
      ∀ v ∈ setting? doc "subscriber" "format", v.isTable = false)
    ⟨fun ⟨sections, strategy, format⟩ => ⟨sections, strategy, format⟩,
      fun h => ⟨h.sections, h.strategy, h.format⟩⟩

/-! ### Documents -/

open Component

theorem entriesOf_of_value? {doc entries : Entries} {part : String} {origin : Toml.Origin}
    (h : doc.value? part = some (.table origin entries)) : entriesOf doc part = entries := by
  simp only [entriesOf, h]

theorem exists_table {v : Value} (h : v.isTable = true) :
    ∃ origin entries, v = .table origin entries := by
  cases v with
  | table origin entries => exact ⟨origin, entries, rfl⟩
  | _ => cases h

section

variable {doc : Entries} {τ : Type} {key : String} {get : Config → τ}
  {set : τ → Config → Config} {get_set : ∀ a c, get (set a c) = a}
  {components : List (Component τ)} {start : τ}

/-- A section that is missing is like one without entries. -/
theorem gives_part_iff (h : Complete components)
    (htable : ∀ v ∈ doc.value? key, v.isTable = true) {a : τ} :
    Gives (partComponent key get set get_set components start).Says start (doc.value? key) a ↔
      Filled components (entriesOf doc key) start a := by
  cases hvalue : doc.value? key with
  | none =>
    have hentries : entriesOf doc key = [] := by simp only [entriesOf, hvalue]
    rw [hentries, h.filled_nil]
    exact eq_comm
  | some v =>
    obtain ⟨origin, entries, rfl⟩ := exists_table (htable v hvalue)
    rw [entriesOf_of_value? hvalue]
    constructor
    · rintro ⟨_, _, hsame, hfilled⟩
      cases hsame
      exact hfilled
    · intro hfilled
      exact ⟨origin, entries, rfl, hfilled⟩

theorem fits_part (hdoc : doc.Ordered) (htable : ∀ v ∈ doc.value? key, v.isTable = true)
    (hfits : ∀ p ∈ components, ∀ w, setting? doc key p.key = some w → p.Fits w) {v : Value}
    (hvalue : doc.value? key = some v) :
    (partComponent key get set get_set components start).Fits v := by
  obtain ⟨origin, entries, rfl⟩ := exists_table (htable v hvalue)
  obtain ⟨e, hmem, -, hv⟩ := Entries.exists_mem_of_value? hvalue
  have hordered := hdoc.values e hmem
  rw [hv] at hordered
  refine ⟨origin, entries, rfl, (Value.ordered_table.1 hordered).sorted, ?_⟩
  intro p hp w hw
  apply hfits p hp w
  rw [setting?, entriesOf_of_value? hvalue, hw]

end

/-- All that the decoder looks into fits in a plain document. -/
theorem Plain.fits {doc : Entries} (h : Plain doc) (hdoc : doc.Ordered) :
    ∀ p ∈ configComponents, ∀ v, doc.value? p.key = some v → p.Fits v := by
  have hnaming : ∀ p ∈ namingComponents, ∀ w, setting? doc "naming" p.key = some w →
      p.Fits w := by
    simpa [namingComponents] using h.strategy
  have hfilter : ∀ p ∈ filterComponents, ∀ w, setting? doc "filter" p.key = some w →
      p.Fits w := by
    simp [filterComponents]
  have hsubscriber : ∀ p ∈ subscriberComponents, ∀ w,
      setting? doc "subscriber" p.key = some w → p.Fits w := by
    simpa [subscriberComponents] using h.format
  simp only [configComponents, List.forall_mem_cons, List.not_mem_nil, false_imp_iff,
    implies_true, and_true]
  exact ⟨fun _ => fits_part hdoc (h.sections "naming" (by decide)) hnaming,
    fun _ => fits_part hdoc (h.sections "filter" (by decide)) hfilter,
    fun _ => fits_part hdoc (h.sections "subscriber" (by decide)) hsubscriber⟩

/-- The parts of a configuration are described one by one. -/
theorem describes_iff {doc : Entries} {c : Config} : Describes doc c ↔
    Filled namingComponents (entriesOf doc "naming") {} c.naming ∧
    Filled filterComponents (entriesOf doc "filter") {} c.filter ∧
    Filled subscriberComponents (entriesOf doc "subscriber") {} c.subscriber := by
  simp only [Describes, settings, Filled, namingComponents, filterComponents,
    subscriberComponents, List.forall_mem_cons, List.not_mem_nil, false_imp_iff, implies_true,
    and_true, and_assoc, setting?]

theorem decode_eq_ok_iff {doc : Entries} (hdoc : doc.Ordered) (h : Plain doc) {c : Config} :
    decode doc = .ok c ↔ Known doc ∧ Describes doc c := by
  rw [decode, complete_config.putEntries_eq_ok_iff filled_config hdoc.sorted (h.fits hdoc),
    describes_iff]
  refine and_congr ?_ ?_
  · simp [Known, parts, configComponents, partComponent]
  · simp only [Filled, configComponents, List.forall_mem_cons, List.not_mem_nil, false_imp_iff,
      implies_true, and_true]
    exact and_congr (gives_part_iff complete_naming (h.sections "naming" (by decide))) <|
      and_congr (gives_part_iff complete_filter (h.sections "filter" (by decide)))
        (gives_part_iff complete_subscriber (h.sections "subscriber" (by decide)))

/-! ### Documents that say the same -/

/-- The keys that mean something have the same values, but for where these were written. Other
    keys of the sections may come and go. -/
def SaysSame (doc other : Entries) : Prop :=
  ∀ p ∈ settings, Toml.alike? (setting? doc p.part p.key) (setting? other p.part p.key) = true

instance (doc other : Entries) : Decidable (SaysSame doc other) :=
  inferInstanceAs (Decidable (∀ p ∈ settings, _))

/-- Alike values say the same. -/
def Regards {α : Type} (Says : Value → α → Prop) : Prop :=
  ∀ v w, v.alike w = true → ∀ a, Says v a ↔ Says w a

theorem eq_string_of_alike {v w : Value} (h : v.alike w = true) {s : List Char} :
    v = .string s ↔ w = .string s := by
  unfold Value.alike at h
  split at h <;> simp_all

theorem eq_boolean_of_alike {v w : Value} (h : v.alike w = true) {b : Bool} :
    v = .boolean b ↔ w = .boolean b := by
  unfold Value.alike at h
  split at h <;> simp_all

theorem regards_text : Regards IsText :=
  fun _ _ h _ => eq_string_of_alike h

theorem regards_flag : Regards IsFlag :=
  fun _ _ h _ => eq_boolean_of_alike h

theorem regards_choice {α : Type} (choices : List (String × α)) : Regards (IsChoice choices) :=
  fun _ _ h _ => exists_congr fun _ => and_congr_right fun _ => eq_string_of_alike h

theorem regards_threshold : Regards IsThreshold :=
  fun _ _ h _ => exists_congr fun _ => and_congr_left fun _ => eq_string_of_alike h

theorem forall₂_of_entriesAlike {entries others : Entries} {ts : List (List Char × Threshold)}
    (h : Toml.entriesAlike entries others = true) :
    List.Forall₂ (fun e t => t.1 = e.1.chars ∧ IsThreshold e.2.2 t.2) entries ts ↔
      List.Forall₂ (fun e t => t.1 = e.1.chars ∧ IsThreshold e.2.2 t.2) others ts := by
  induction entries generalizing others ts with
  | nil =>
    cases others with
    | nil => rfl
    | cons => simp [Toml.entriesAlike] at h
  | cons e entries ih =>
    obtain ⟨key, span, v⟩ := e
    cases others with
    | nil => simp [Toml.entriesAlike] at h
    | cons f others =>
      obtain ⟨key', span', w⟩ := f
      simp only [Toml.entriesAlike, Bool.and_eq_true, beq_iff_eq] at h
      obtain ⟨⟨hkey, hvalue⟩, hrest⟩ := h
      simp only [List.forall₂_cons_left_iff, hkey, regards_threshold v w hvalue, ih hrest]

theorem regards_thresholds : Regards AreThresholds := by
  intro v w h a
  unfold Value.alike at h
  split at h
  case h_8 =>
    rw [areThresholds_table, areThresholds_table]
    exact forall₂_of_entriesAlike h
  all_goals simp_all [AreThresholds]

theorem regards_settings : ∀ p ∈ settings, Regards p.Says := by
  simp only [settings, List.forall_mem_cons, List.not_mem_nil, false_imp_iff, implies_true,
    and_true]
  exact ⟨regards_choice _, regards_threshold, regards_thresholds, regards_text,
    regards_choice _, regards_text, regards_flag, regards_flag, regards_flag⟩

theorem SaysSame.describes_iff {doc other : Entries} (h : SaysSame doc other) {c : Config} :
    Describes other c ↔ Describes doc c := by
  refine forall₂_congr fun p hp => ?_
  have hsame := h p hp
  have hregards := regards_settings p hp
  generalize setting? doc p.part p.key = v? at hsame
  generalize setting? other p.part p.key = w? at hsame
  cases v? with
  | none =>
    cases w? with
    | none => rfl
    | some w => cases hsame
  | some v =>
    cases w? with
    | none => cases hsame
    | some w => exact (hregards v w hsame _).symm

/-! ### Texts -/

/-- What is assumed of a text: the TOML reader yields the table of a document for it. -/
structure Holds (text : List Char) (doc : Entries) : Prop where
  parsed : Toml.Document.parse? text = some doc
  /-- It belongs to the same assumption that all numbers can be held, those that are left aside
      included. One that cannot be held is an error of the reader, which then yields no table. -/
  in_range : passesOver doc = true

theorem Holds.parse_eq_ok_iff {text : List Char} {doc : Entries} (h : Holds text doc)
    (hplain : Plain doc) {c : Config} : parse text = .ok c ↔ Known doc ∧ Describes doc c := by
  rw [← decode_eq_ok_iff (Toml.Document.ordered_of_parse? h.parsed) hplain]
  unfold parse
  rw [h.parsed]
  dsimp only
  cases hdecode : decode doc with
  | ok read => simp [h.in_range]
  | error fault =>
    dsimp only
    split
    · simp
    · simp

/-- Values that say something each by itself say something together. -/
theorem Valid.exists_describes {doc : Entries} (h : Valid doc) : ∃ c, Describes doc c := by
  have hgives : ∀ p ∈ settings, ∃ a,
      Gives p.Says p.default (setting? doc p.part p.key) a := by
    intro p hp
    cases hvalue : setting? doc p.part p.key with
    | none => exact ⟨p.default, rfl⟩
    | some v => exact h p hp v hvalue
  simp only [settings, List.forall_mem_cons, List.not_mem_nil, false_imp_iff, implies_true,
    and_true] at hgives
  obtain ⟨⟨strategy, hstrategy⟩, ⟨fallback, hfallback⟩, ⟨loggers, hloggers⟩, ⟨level, hlevel⟩,
    ⟨format, hformat⟩, ⟨output, houtput⟩, ⟨color, hcolor⟩, ⟨timestamps, htimestamps⟩,
    ⟨target, htarget⟩⟩ := hgives
  refine ⟨⟨⟨strategy⟩, ⟨fallback, loggers⟩, ⟨level, format, output, color, timestamps, target⟩⟩, ?_⟩
  simp only [Describes, settings, List.forall_mem_cons, List.not_mem_nil, false_imp_iff,
    implies_true, and_true]
  exact ⟨hstrategy, hfallback, hloggers, hlevel, hformat, houtput, hcolor, htimestamps, htarget⟩

theorem Describes.valid {doc : Entries} {c : Config} (h : Describes doc c) : Valid doc := by
  intro p hp v hvalue
  have hgives := h p hp
  rw [hvalue] at hgives
  exact ⟨p.get c, hgives⟩

/-- What is to be known about reading a configuration from the text of a document. -/
structure Fieldwise (text : List Char) (doc : Entries) : Prop where
  /-- It can be read if there are no other sections, and no value is wrong by itself. -/
  succeeds : (∃ c, parse text = .ok c) ↔ Known doc ∧ Valid doc
  /-- Then each part of it is what its own key says, or the default. -/
  described : ∀ c, parse text = .ok c ↔ Known doc ∧ Describes doc c
  /-- Keys that mean nothing do not change it if the sections have more of them, or fewer. -/
  same : ∀ text' doc', Holds text' doc' → Plain doc' → (Known doc' ↔ Known doc) →
    SaysSame doc doc' → ∀ c, parse text' = .ok c ↔ parse text = .ok c

/-- **A configuration is read field by field.** -/
theorem parse_fieldwise {text : List Char} {doc : Entries} (h : Holds text doc)
    (plain : Plain doc) : Fieldwise text doc where
  succeeds := by
    simp only [h.parse_eq_ok_iff plain, exists_and_left]
    refine and_congr_right fun _ => ⟨?_, Valid.exists_describes⟩
    rintro ⟨c, hc⟩
    exact hc.valid
  described _ := h.parse_eq_ok_iff plain
  same text' doc' h' plain' hknown hsame c := by
    rw [h'.parse_eq_ok_iff plain', h.parse_eq_ok_iff plain, hknown, hsame.describes_iff]

/-- Two texts say the same in different ways, and each has a key that means nothing. In the second
    this key is all that there is of its section. -/
theorem parse_fieldwise_of_stray_keys :
    let text := "[filter]\nloggers.db = ' Warn'\nx = 1\n[subscriber]\ncolor = false".toList
    let other := "subscriber.color = false\nnaming.x = 1\n[filter.loggers]\ndb = ' Warn'".toList
    let c : Config :=
      { filter := { loggers := [("db".toList, .atLeast .warn)] }, subscriber := { color := false } }
    ∃ doc doc', Holds text doc ∧ Plain doc ∧ Holds other doc' ∧ Plain doc' ∧ SaysSame doc doc' ∧
      Known doc ∧ Valid doc ∧ Describes doc c ∧ parse text = .ok c ∧ parse other = .ok c := by
  intro text other c
  have hread : ((Toml.Document.parse? text).any fun doc =>
      (Toml.Document.parse? other).any fun doc' => passesOver doc && decide (Plain doc) &&
        passesOver doc' && decide (Plain doc') && decide (Known doc') &&
          decide (SaysSame doc doc')) = true := by
    decide +kernel
  obtain ⟨doc, hdoc, hread⟩ := (Option.any_eq_true _ _).1 hread
  obtain ⟨doc', hdoc', hread⟩ := (Option.any_eq_true _ _).1 hread
  simp only [Bool.and_eq_true, decide_eq_true_eq] at hread
  obtain ⟨⟨⟨⟨⟨hrange, hplain⟩, hrange'⟩, hplain'⟩, hknown'⟩, hsame⟩ := hread
  have hholds : Holds text doc := ⟨hdoc, hrange⟩
  have hholds' : Holds other doc' := ⟨hdoc', hrange'⟩
  have hparse : parse text = .ok c := by
    have hsome : (parse text).toOption = some c := by decide +kernel
    cases hresult : parse text with
    | error e =>
      rw [hresult] at hsome
      cases hsome
    | ok read =>
      rw [hresult] at hsome
      exact congrArg _ (Option.some.inj hsome)
  have hfields := parse_fieldwise hholds hplain
  obtain ⟨hknown, hvalid⟩ := hfields.succeeds.1 ⟨c, hparse⟩
  have hdescribes := ((hfields.described c).1 hparse).2
  have hother := (hfields.same other doc' hholds' hplain' (iff_of_true hknown' hknown) hsame c).2
    hparse
  exact ⟨doc, doc', hholds, hplain, hholds', hplain', hsame, hknown, hvalid, hdescribes, hparse,
    hother⟩

end Config

end LoggerTree
