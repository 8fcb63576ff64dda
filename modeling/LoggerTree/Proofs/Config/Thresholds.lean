import LoggerTree.CommandLine
import LoggerTree.Config.Factory
import LoggerTree.Proofs.Call.Relayed
import LoggerTree.Proofs.Config.Ordered
import LoggerTree.Proofs.Directives.Lookup

/-! # What a configured threshold means

    A configuration lists thresholds under keys, and of two spellings of one name both may be
    listed. For a logger name, the keys count that stand for it or for a name above it. Of these
    the one for the longest name decides, and of two for the same name the greater key.

    Main statement: `thresholds_mean_same`. The directives, the answer to the request to check a
    logger, and the loggers of the configured factory all go by the entry that decides.
-/

namespace LoggerTree

namespace Config

/-! ### The meaning of a configuration -/

/-- The key of an entry stands for a name or for one above it. -/
def Matches (n : Name) (e : List Char × Threshold) : Prop :=
  Name.ofChars e.1 ∈ n.lineage

/-- An entry decides the threshold of a name: no other match has a longer name, and among those
    with a name as long none has a greater key. -/
structure Decides (c : Config) (n : Name) (e : List Char × Threshold) : Prop where
  listed : e ∈ c.filter.loggers
  matching : Matches n e
  longest : ∀ f ∈ c.filter.loggers, Matches n f →
    Text.byteLength (Name.ofChars f.1).chars ≤ Text.byteLength (Name.ofChars e.1).chars
  greatest : ∀ f ∈ c.filter.loggers, Matches n f →
    Text.byteLength (Name.ofChars f.1).chars = Text.byteLength (Name.ofChars e.1).chars →
      f.1 ≤ e.1

/-- The threshold that a configuration means for a name: that of the entry that decides, or the
    fallback if there is no match. -/
def Means (c : Config) (n : Name) (t : Threshold) : Prop :=
  (∃ e, c.Decides n e ∧ e.2 = t) ∨
    (∀ e ∈ c.filter.loggers, ¬Matches n e) ∧ c.filter.fallback = t

/-! ### The last of several entries -/

theorem getLast?_of_greatest {entries : List (List Char × Threshold)}
    (h : entries.Pairwise fun e f => e.1 < f.1) {e : List Char × Threshold} (he : e ∈ entries)
    (hgreatest : ∀ f ∈ entries, f.1 ≤ e.1) : entries.getLast? = some e := by
  obtain ⟨before, after, rfl⟩ := List.append_of_mem he
  have hafter : after = [] := by
    apply List.eq_nil_iff_forall_not_mem.2
    intro f hf
    have hlt := (List.pairwise_cons.1 (List.pairwise_append.1 h).2.1).1 f hf
    exact absurd (hgreatest f (by simp [hf])) (not_le.2 hlt)
  rw [hafter, List.getLast?_append]
  rfl

theorem le_of_getLast? {entries : List (List Char × Threshold)}
    (h : entries.Pairwise fun e f => e.1 < f.1) {e : List Char × Threshold}
    (hlast : entries.getLast? = some e) {f : List Char × Threshold} (hf : f ∈ entries) :
    f.1 ≤ e.1 := by
  obtain ⟨before, rfl⟩ := List.getLast?_eq_some_iff.1 hlast
  rcases List.mem_append.1 hf with hf | hf
  · exact le_of_lt ((List.pairwise_append.1 h).2.2 f hf e (by simp))
  · rw [List.mem_singleton.1 hf]

/-- The entries for a name. -/
def entriesFor (c : Config) (n : Name) : List (List Char × Threshold) :=
  c.filter.loggers.filter fun e => Name.ofChars e.1 = n

theorem mem_entriesFor {c : Config} {n : Name} {e : List Char × Threshold} :
    e ∈ c.entriesFor n ↔ e ∈ c.filter.loggers ∧ Name.ofChars e.1 = n := by
  simp [entriesFor]

/-- A name is given what the last of its entries says. -/
theorem lastAssigned?_assignments (c : Config) (n : Name) :
    Directives.lastAssigned? c.assignments n = (c.entriesFor n).getLast?.map (·.2) := by
  unfold Directives.lastAssigned? assignments entriesFor
  rw [List.filter_map, List.getLast?_map, Option.map_map]
  rfl

/-- What the climb meets at a name without entries, unless that is the root. -/
theorem lastAssigned?_eq_none {c : Config} {n : Name} (hroot : n ≠ .root)
    (hnone : ∀ e ∈ c.filter.loggers, Name.ofChars e.1 ≠ n) :
    Directives.lastAssigned? ((.root, c.filter.fallback) :: c.assignments) n = none := by
  have hempty : c.entriesFor n = [] := by
    apply List.eq_nil_iff_forall_not_mem.2
    intro e he
    exact hnone e (mem_entriesFor.1 he).1 (mem_entriesFor.1 he).2
  rw [Directives.lastAssigned?_cons, lastAssigned?_assignments, hempty, if_neg (Ne.symm hroot)]
  rfl

/-! ### What directives make of it -/

/-- The climb up the lineage of a name ends at the threshold. -/
theorem threshold_eq_of_climb {c : Config} {n : Name} {t : Threshold}
    (h : n.lineage.findSome?
      (Directives.lastAssigned? ((.root, c.filter.fallback) :: c.assignments)) = some t) :
    c.directives.threshold n = t := by
  have hclimb := Directives.findSome?_lastAssigned? c.filter.fallback c.assignments n
  rw [h] at hclimb
  exact (Option.some.inj hclimb).symm

theorem threshold_of_decides {c : Config} (ordered : c.Ordered) {n : Name}
    {e : List Char × Threshold} (h : c.Decides n e) : c.directives.threshold n = e.2 := by
  apply threshold_eq_of_climb
  apply Name.findSome?_lineage h.matching
  · have hlast : (c.entriesFor (.ofChars e.1)).getLast? = some e := by
      apply getLast?_of_greatest (ordered.filter _) (mem_entriesFor.2 ⟨h.listed, rfl⟩)
      intro f hf
      obtain ⟨hf, hname⟩ := mem_entriesFor.1 hf
      have hmatch : Matches n f := by
        rw [Matches, hname]
        exact h.matching
      exact h.greatest f hf hmatch (by rw [hname])
    rw [Directives.lastAssigned?_cons, lastAssigned?_assignments, hlast]
    rfl
  · -- An entry for a longer name would match as well.
    intro x hx hlonger
    apply lastAssigned?_eq_none (Name.ne_root_of_byteLength_lt hlonger)
    rintro f hf rfl
    have hle := h.longest f hf hx
    omega

theorem threshold_of_no_match {c : Config} {n : Name}
    (h : ∀ e ∈ c.filter.loggers, ¬Matches n e) :
    c.directives.threshold n = c.filter.fallback := by
  apply threshold_eq_of_climb
  apply Name.findSome?_lineage n.root_mem_lineage
  · have hempty : c.entriesFor .root = [] := by
      apply List.eq_nil_iff_forall_not_mem.2
      intro e he
      obtain ⟨he, hname⟩ := mem_entriesFor.1 he
      apply h e he
      rw [Matches, hname]
      exact n.root_mem_lineage
    rw [Directives.lastAssigned?_cons, lastAssigned?_assignments, hempty, if_pos rfl]
    rfl
  · intro x hx hlonger
    apply lastAssigned?_eq_none (Name.ne_root_of_byteLength_lt hlonger)
    rintro f hf rfl
    exact h f hf hx

/-- The first name on the way up that has entries is the longest one that has. -/
theorem exists_longest {c : Config} {n : Name} (h : ∃ e ∈ c.filter.loggers, Matches n e) :
    ∃ m ∈ n.lineage, c.entriesFor m ≠ [] ∧ ∀ f ∈ c.filter.loggers, Matches n f →
      Name.ofChars f.1 = m ∨
        Text.byteLength (Name.ofChars f.1).chars < Text.byteLength m.chars := by
  have hself (f : List Char × Threshold) (hf : f ∈ c.filter.loggers) :
      c.entriesFor (.ofChars f.1) ≠ [] :=
    List.ne_nil_of_mem (mem_entriesFor.2 ⟨hf, rfl⟩)
  cases hfirst : n.lineage.find? fun x => decide (c.entriesFor x ≠ []) with
  | none =>
    obtain ⟨e, he, hmatch⟩ := h
    have hnone := List.find?_eq_none.1 hfirst _ hmatch
    exact absurd (decide_eq_true (hself e he)) hnone
  | some m =>
    obtain ⟨hm, before, after, hlineage, hbefore⟩ := List.find?_eq_some_iff_append.1 hfirst
    have hsorted := n.lineage_pairwise_byteLength
    rw [hlineage] at hsorted
    refine ⟨m, by simp [hlineage], of_decide_eq_true hm, ?_⟩
    intro f hf hmatch
    rw [Matches, hlineage] at hmatch
    rcases List.mem_append.1 hmatch with hmatch | hmatch
    · have hnone := hbefore _ hmatch
      rw [decide_eq_true (hself f hf)] at hnone
      cases hnone
    · rcases List.mem_cons.1 hmatch with hmatch | hmatch
      · exact .inl hmatch
      · exact .inr ((List.pairwise_cons.1 (List.pairwise_append.1 hsorted).2.1).1 _ hmatch)

/-- If there is a match, one of them decides. -/
theorem exists_decides {c : Config} (ordered : c.Ordered) {n : Name}
    (h : ∃ e ∈ c.filter.loggers, Matches n e) : ∃ e, c.Decides n e := by
  obtain ⟨m, hm, hentries, hlongest⟩ := exists_longest h
  obtain ⟨e, hlast⟩ : ∃ e, (c.entriesFor m).getLast? = some e :=
    ⟨_, List.getLast?_eq_some_getLast hentries⟩
  obtain ⟨he, rfl⟩ := mem_entriesFor.1 (List.mem_of_getLast? hlast)
  refine ⟨e, he, hm, ?_, ?_⟩
  · intro f hf hmatch
    rcases hlongest f hf hmatch with hname | hshorter
    · rw [hname]
    · exact Nat.le_of_lt hshorter
  · -- Two names of one lineage are as long only if they are the same.
    intro f hf hmatch hlength
    rcases hlongest f hf hmatch with hname | hshorter
    · exact le_of_getLast? (ordered.filter _) hlast (mem_entriesFor.2 ⟨hf, hname⟩)
    · omega

/-- **Directives go by the entry that decides.** -/
theorem threshold_eq_iff_means {c : Config} (ordered : c.Ordered) {n : Name} {t : Threshold} :
    c.directives.threshold n = t ↔ c.Means n t := by
  constructor
  · intro h
    by_cases hmatch : ∃ e ∈ c.filter.loggers, Matches n e
    · obtain ⟨e, he⟩ := exists_decides ordered hmatch
      exact .inl ⟨e, he, by rw [← h, threshold_of_decides ordered he]⟩
    · have hnone : ∀ e ∈ c.filter.loggers, ¬Matches n e := by
        intro e he hm
        exact hmatch ⟨e, he, hm⟩
      exact .inr ⟨hnone, by rw [← h, threshold_of_no_match hnone]⟩
  · intro h
    rcases h with ⟨e, he, rfl⟩ | ⟨hnone, rfl⟩
    · exact threshold_of_decides ordered he
    · exact threshold_of_no_match hnone

/-! ### The number of rules -/

/-- The names that entries are for, the root aside. -/
def ruleNames (c : Config) : List Name :=
  (c.filter.loggers.map fun e => Name.ofChars e.1).filter (· ≠ .root)

theorem wellFormed_directives (c : Config) : c.directives.WellFormed :=
  (Directives.wellFormed_plain c.filter.fallback).assignAll c.assignments

theorem mem_ruleNames {c : Config} {n : Name} :
    n ∈ c.ruleNames ↔ n ≠ .root ∧ ∃ e ∈ c.filter.loggers, Name.ofChars e.1 = n := by
  simp [ruleNames, and_comm]

/-- A name has a rule if it has entries, unless it is the root. -/
theorem mem_rules_iff {c : Config} {n : Name} :
    n ∈ c.directives.rules.map (·.name) ↔ n ∈ c.ruleNames := by
  have hgiven : c.directives.given? n =
      Directives.lastAssigned? ((.root, c.filter.fallback) :: c.assignments) n :=
    congrFun (Directives.given?_assignAll_plain _ _) n
  rw [mem_ruleNames]
  constructor
  · intro h
    obtain ⟨r, hr, rfl⟩ := List.mem_map.1 h
    have hroot := c.wellFormed_directives.not_root r hr
    refine ⟨hroot, ?_⟩
    by_contra hnone
    push Not at hnone
    rw [lastAssigned?_eq_none hroot hnone, c.wellFormed_directives.given?_of_mem hr] at hgiven
    cases hgiven
  · intro h
    obtain ⟨hroot, e, he, rfl⟩ := h
    by_contra hnone
    have hrules : ∀ r ∈ c.directives.rules, r.name ≠ .ofChars e.1 := by
      intro r hr heq
      exact hnone (List.mem_map.2 ⟨r, hr, heq⟩)
    rw [Directives.given?_eq_none hroot hrules, Directives.lastAssigned?_cons,
      lastAssigned?_assignments, if_neg (Ne.symm hroot), Option.or_none] at hgiven
    have hempty := List.getLast?_eq_none_iff.1 (Option.map_eq_none_iff.1 hgiven.symm)
    exact List.ne_nil_of_mem (mem_entriesFor.2 ⟨he, rfl⟩) hempty

/-- There is a rule for each name but the root that has entries. -/
theorem size_directives (c : Config) : c.directives.size = c.ruleNames.dedup.length := by
  have hdistinct : (c.directives.rules.map (·.name)).Nodup := by
    rw [List.Nodup, List.pairwise_map]
    exact c.wellFormed_directives.distinct
  rw [← length_eq_length_dedup hdistinct fun n => mem_rules_iff, List.length_map]
  rfl

end Config

/-! ### What `check` prints -/

namespace CommandLine

/-- The lines for a name with a threshold: the two of them, and for each level whether it passes. -/
def report (n : Name) (t : Threshold) : String :=
  let line (l : Level) : String :=
    let column : Text.Padding := { width := some 5 }
    let state := if t.allows l then "enabled" else "disabled"
    s!"  {String.ofList (column.apply l.display.toList)} {state}\n"
  s!"{n.toString} (threshold {t.display})\n" ++ String.join (Level.all.map line)

/-- The configuration that `check` goes by, given what can be read at paths: the default one where
    there is nothing to read. -/
def Loads (look : List Char → Option (Except FileError String)) (path : List Char)
    (c : Config) : Prop :=
  look path = none ∧ c = {} ∨ ∃ content, look path = some content ∧
    Config.ofRead path content = .ok c

variable {look : List Char → Option (Except FileError String)} {path : List Char} {c : Config}

theorem ordered_of_loads (h : Loads look path c) : c.Ordered := by
  rcases h with ⟨-, rfl⟩ | ⟨content, -, hread⟩
  · exact Config.ordered_default
  · exact Config.ordered_of_ofRead hread

/-- The threshold of the name, and what it lets pass, is what the request for it is answered
    with. -/
theorem answer_check (logger : List Char) (hload : Loads look path c) :
    (answer look (.check logger path)).exit = 0 ∧
      (answer look (.check logger path)).stdout =
        report (.ofChars logger) (c.directives.threshold (.ofChars logger)) := by
  rw [answer]
  rcases hload with ⟨hnothing, rfl⟩ | ⟨content, hcontent, hread⟩
  · rw [hnothing]
    exact ⟨rfl, rfl⟩
  · rw [hcontent]
    dsimp only
    rw [hread]
    exact ⟨rfl, rfl⟩

end CommandLine

/-! ### The promise -/

/-- What is promised of the thresholds of a configuration. -/
structure MeansSame (c : Config) : Prop where
  /-- The directives give a name the threshold that is meant for it. -/
  threshold : ∀ n t, c.directives.threshold n = t ↔ c.Means n t
  /-- There is a rule for each distinct name that keys stand for, the root aside. -/
  size : c.directives.size =
    ((c.filter.loggers.map fun e => Name.ofChars e.1).filter (· ≠ .root)).dedup.length
  /-- This threshold is what the request to check a logger is answered with, and a level is given as
      enabled if it is at least as severe. -/
  answered : ∀ look logger path t, CommandLine.Loads look path c → c.Means (.ofChars logger) t →
    (CommandLine.answer look (.check logger path)).exit = 0 ∧
      (CommandLine.answer look (.check logger path)).stdout =
        CommandLine.report (.ofChars logger) t
  /-- The command lines that make the request print this answer. -/
  check : ∀ look preset arguments logger path t,
    CommandLine.parse preset arguments = .request (.check logger path) →
    CommandLine.Loads look path c → c.Means (.ofChars logger) t →
      (CommandLine.run look preset arguments).exit = 0 ∧
        (CommandLine.run look preset arguments).stdout = CommandLine.report (.ofChars logger) t
  /-- A logger of the configured factory answers the same if the subscriber wants the level,
      whatever has been done before the logger was acquired and whatever after. -/
  factory : ∀ (start : Facade) (b k : Nat) text t, start.backends b = c.backend →
    start.factories k = c.factory b → start.loggers = [] → c.Means (.ofChars text) t →
    ∀ history later allow level, allow .application level = true →
      let acquired := (start.runUnder history).named k (.ofChars text)
      acquired.1.name = .ofChars text ∧
        ((acquired.2.runUnder later).under allow).query acquired.1 level =
          (.ok (t.allows level), (acquired.2.runUnder later).under allow)

/-- **A configured threshold means the same everywhere**: in the directives, in what `check` prints
    and to the loggers of the configured factory. Configurations that are read from a file list
    their keys in order, so this holds for them. -/
theorem thresholds_mean_same :
    (∀ look path c, CommandLine.Loads look path c → c.Ordered) ∧
      ∀ c : Config, c.Ordered → MeansSame c := by
  refine ⟨fun _ _ _ => CommandLine.ordered_of_loads, ?_⟩
  intro c ordered
  have hthreshold (n : Name) (t : Threshold) : c.directives.threshold n = t ↔ c.Means n t :=
    Config.threshold_eq_iff_means ordered
  have hanswered (look : List Char → Option (Except FileError String)) (logger path : List Char)
      (t : Threshold) (hload : CommandLine.Loads look path c)
      (hmeans : c.Means (.ofChars logger) t) :
      (CommandLine.answer look (.check logger path)).exit = 0 ∧
        (CommandLine.answer look (.check logger path)).stdout =
          CommandLine.report (.ofChars logger) t := by
    rw [← (hthreshold _ t).2 hmeans]
    exact CommandLine.answer_check logger hload
  exact
    { threshold := hthreshold
      size := c.size_directives
      answered := hanswered
      check := by
        intro look preset arguments logger path t hparse hload hmeans
        rw [CommandLine.run_of_request hparse]
        exact hanswered look logger path t hload hmeans
      factory := by
        intro start b k text t hbackend hfactory hloggers hmeans history later allow level hwanted
        have hrelays := (Facade.Relays.of_new hbackend hloggers).runUnder history
        have hk : ((start.runUnder history).factories k).backend = b := by
          refine Facade.runUnder_keeps (P := fun g => (g.factories k).backend = b) ?_
            (fun _ _ h => h) (by rw [hfactory]; rfl) history
          intro f g hchange hf
          rw [Facade.backend_factories_change hchange, hf]
        obtain ⟨hname, hquery⟩ := hrelays.named hk (.ofChars text)
        refine ⟨hname, ?_⟩
        rw [hquery, Directives.passes, Directives.enabled, (hthreshold _ t).2 hmeans, hwanted,
          Bool.and_true] }

/-- A file has two spellings of `app.db`, of which the one with colons is the greater, and the
    empty key besides. A logger is acquired while nobody listens. -/
theorem thresholds_mean_same_of_spellings :
    let text := "[filter.loggers]\n'app::db' = 'off'\n'' = 'error'\n'app.db' = 'debug'\n" ++
      "app = 'warn'\n"
    let c : Config := { filter := { loggers := [("".toList, .atLeast .error),
      ("app".toList, .atLeast .warn), ("app.db".toList, .atLeast .debug),
      ("app::db".toList, .off)] } }
    let path := "log.toml".toList
    let look (p : List Char) : Option (Except FileError String) :=
      if p = path then some (.ok text) else none
    let arguments := ["check".toList, "app::http".toList, "-c".toList, path]
    let start : Facade := { backends := fun _ => c.backend, factories := fun _ => c.factory 0 }
    let nobody : Target → Level → Bool := fun _ _ => false
    let history := [(nobody, Command.acquire 0 (.name "app.http".toList)),
      (nobody, .setStrategy 0 .bySymbol)]
    let acquired := (start.runUnder history).named 0 (.ofChars "app::http".toList)
    CommandLine.Loads look path c ∧ c.Ordered ∧ c.Means (.ofString "app.db.Pool") .off ∧
      c.Means (.ofString "web") (.atLeast .error) ∧ c.directives.size = 2 ∧
      (CommandLine.run look none arguments).stdout = "app.http (threshold warn)\n" ++
        "  TRACE disabled\n  DEBUG disabled\n  INFO  disabled\n  WARN  enabled\n" ++
        "  ERROR enabled\n" ∧
      (acquired.2.under fun _ _ => true).query acquired.1 .warn =
        (.ok true, acquired.2.under fun _ _ => true) := by
  intro text c path look arguments start nobody history acquired
  obtain ⟨hordered, hsame⟩ := thresholds_mean_same
  have hread : Config.ofRead path (.ok text) = .ok c := by
    have hsome : (Config.ofRead path (.ok text)).toOption = some c := by decide +kernel
    cases hc : Config.ofRead path (.ok text) with
    | error e =>
      rw [hc] at hsome
      cases hsome
    | ok d =>
      rw [hc] at hsome
      cases hsome
      rfl
  have hload : CommandLine.Loads look path c := .inr ⟨_, if_pos rfl, hread⟩
  have hmeans := hsame c (hordered look path c hload)
  have hhttp : c.Means (.ofChars "app::http".toList) (.atLeast .warn) :=
    (hmeans.threshold _ _).1 (by decide +kernel)
  refine ⟨hload, hordered look path c hload, ?_, ?_, ?_, ?_, ?_⟩
  · exact (hmeans.threshold _ _).1 (by decide +kernel)
  · exact (hmeans.threshold _ _).1 (by decide +kernel)
  · rw [hmeans.size]
    decide +kernel
  · rw [(hmeans.check look none arguments _ path _ (by decide +kernel) hload hhttp).2]
    decide +kernel
  · exact (hmeans.factory start 0 0 _ _ rfl rfl rfl hhttp history [] (fun _ _ => true) .warn
      rfl).2

end LoggerTree
