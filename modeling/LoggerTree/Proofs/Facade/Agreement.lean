import LoggerTree.Proofs.Context.Places
import LoggerTree.Proofs.Facade.Handles

/-! # One logger for each path

    A path of identifiers can be written in many ways: with colons or with dots, as a module, as a
    type or a singleton in a module, and as the text of a type. Whichever way a logger is acquired
    in, it has the one name that the identifiers make up.

    Main statement: `path_agreement`. It says so for all ways to write a path, and that two loggers
    which are acquired through one backend for the same path are one, whatever happens in between.
-/

namespace LoggerTree

open Text (joinDots joinPath IsIdentifier)

/-- The two ways to write a path as a text. -/
def Name.spellings (outer : List (List Char)) (last : List Char) : List (List Char) :=
  [joinPath (outer ++ [last]), joinDots (outer ++ [last])]

/-- The names that the ways to write a path lead to. -/
inductive Name.Spells (outer : List (List Char)) (last : List Char) : Name → Prop where
  | text {text : List Char} (htext : text ∈ spellings outer last) :
    Spells outer last (.ofChars text)
  /-- The module, and the type or the singleton in the module around it, companions or not. -/
  | place {c : Context} (hc : c.withoutCompanions ∈ Context.places outer last) (s : Strategy) :
    Spells outer last (c.resolve s)
  /-- A type of the path, with any marks and arguments. -/
  | type (marks : List TypeText.Mark) (arguments? : Option (List Char)) :
    Spells outer last
      (.ofType (TypeText.written marks (joinPath (outer ++ [last])) arguments?))
  | typeContext (marks : List TypeText.Mark) (arguments? : Option (List Char)) (s : Strategy) :
    Spells outer last
      ((Context.ofType (TypeText.written marks (joinPath (outer ++ [last])) arguments?)).resolve s)

/-- All ways to write a path lead to one name. -/
theorem Name.Spells.eq {outer : List (List Char)} {last : List Char}
    (h : ∀ w ∈ outer ++ [last], IsIdentifier w) {n : Name} (hn : Spells outer last n) :
    n = ⟨joinDots (outer ++ [last])⟩ := by
  cases hn with
  | text htext =>
    simp only [spellings, List.mem_cons, List.not_mem_nil, or_false] at htext
    rcases htext with rfl | rfl
    · rw [ofChars_joinPath h, ofChars_joinDots h]
    · exact ofChars_joinDots h
  | place hc s => exact Context.resolve_of_mem_places h hc s
  | type marks arguments? => exact ofType_written h marks arguments?
  | typeContext marks arguments? s => rw [Context.resolve_ofType, ofType_written h]

/-! ### Acquiring by path -/

/-- The commands that ask a backend for the logger of a path. -/
inductive Facade.AcquiresPath (f : Facade) (b : Nat) (outer : List (List Char))
    (last : List Char) : Command → Prop where
  | direct {n : Name} (hn : Name.Spells outer last n) :
    f.AcquiresPath b outer last (.acquireDirect b n)
  | named {k : Nat} {text : List Char} (hk : (f.factories k).backend = b)
    (htext : text ∈ Name.spellings outer last) :
    f.AcquiresPath b outer last (.acquire k (.name text))
  | module {k : Nat} (hk : (f.factories k).backend = b) :
    f.AcquiresPath b outer last (.acquire k (.module (joinPath (outer ++ [last]))))
  | singleton {k : Nat} (hk : (f.factories k).backend = b) :
    f.AcquiresPath b outer last (.acquire k (.singleton (joinPath outer) last none))
  | context {k : Nat} {c : Context} (hk : (f.factories k).backend = b)
    (hc : c.withoutCompanions ∈ Context.places outer last) :
    f.AcquiresPath b outer last (.acquire k (.context c))
  | contextWith {k : Nat} {c : Context} (hk : (f.factories k).backend = b)
    (hc : c.withoutCompanions ∈ Context.places outer last) (s : Strategy) :
    f.AcquiresPath b outer last (.acquireWith k c s)
  | type {k : Nat} (hk : (f.factories k).backend = b) (marks : List TypeText.Mark)
    (arguments? : Option (List Char)) :
    f.AcquiresPath b outer last
      (.acquire k (.type (TypeText.written marks (joinPath (outer ++ [last])) arguments?)))
  | typeContext {k : Nat} (hk : (f.factories k).backend = b) (marks : List TypeText.Mark)
    (arguments? : Option (List Char)) :
    f.AcquiresPath b outer last (.acquire k (.context
      (.ofType (TypeText.written marks (joinPath (outer ++ [last])) arguments?))))
  | typeContextWith {k : Nat} (hk : (f.factories k).backend = b) (marks : List TypeText.Mark)
    (arguments? : Option (List Char)) (s : Strategy) :
    f.AcquiresPath b outer last (.acquireWith k
      (.ofType (TypeText.written marks (joinPath (outer ++ [last])) arguments?)) s)

namespace Facade

variable {f : Facade} {b : Nat}

/-- They all ask with the same name. -/
theorem AcquiresPath.request? {outer : List (List Char)} {last : List Char}
    (h : ∀ w ∈ outer ++ [last], IsIdentifier w) {c : Command}
    (hc : f.AcquiresPath b outer last c) :
    f.request? c = some (b, ⟨joinDots (outer ++ [last])⟩) := by
  cases hc with
  | direct hn => rw [Facade.request?, hn.eq h]
  | named hk htext =>
    rw [Facade.request?, hk, Acquisition.resolve, (Name.Spells.text htext).eq h]
  | module hk =>
    have hplace : (Context.module (joinPath (outer ++ [last]))).withoutCompanions ∈
        Context.places outer last := by
      rw [Context.withoutCompanions_module]
      simp [Context.places]
    rw [Facade.request?, hk, Acquisition.resolve, (Name.Spells.place hplace _).eq h]
  | singleton hk =>
    have hplace : (Context.singleton (joinPath outer) last none).withoutCompanions ∈
        Context.places outer last := by
      rw [Context.singleton, Context.withoutCompanions_push _ (by simp),
        Context.withoutCompanions_module]
      simp [Context.places]
    rw [Facade.request?, hk, Acquisition.resolve, (Name.Spells.place hplace _).eq h]
  | context hk hc => rw [Facade.request?, hk, Acquisition.resolve, (Name.Spells.place hc _).eq h]
  | contextWith hk hc s => rw [Facade.request?, hk, (Name.Spells.place hc s).eq h]
  | type hk marks arguments? =>
    rw [Facade.request?, hk, Acquisition.resolve, (Name.Spells.type marks arguments?).eq h]
  | typeContext hk marks arguments? =>
    rw [Facade.request?, hk, Acquisition.resolve,
      (Name.Spells.typeContext marks arguments? _).eq h]
  | typeContextWith hk marks arguments? s =>
    rw [Facade.request?, hk, (Name.Spells.typeContext marks arguments? s).eq h]

/-! ### Thresholds -/

/-- The threshold that a logger goes by: the one that its handle keeps, or else the one that its
    backend has for its name at the time. -/
def threshold (f : Facade) (l : Logger) : Threshold :=
  l.handle.threshold?.getD ((f.backends l.backend).directives.threshold l.name)

/-- Kept or not, the threshold of a logger is the one that the backend has for its name. -/
theorem Interns.threshold_eq (h : f.Interns b) {l : Logger} (hl : l ∈ f.loggers)
    (hb : l.backend = b) : f.threshold l = (f.backends b).directives.threshold l.name := by
  have hkept := h.backend.thresholds _ (h.known l hl hb)
  unfold threshold
  rw [hkept, hb]
  -- A backend with a journal gives its handles none, the other one gives them just this one.
  cases f.backends b <;> rfl

/-! ### Sharing -/

/-- Two requests for one name are answered with one logger. -/
theorem step_eq_step (hinterns : f.Interns b) (hkeeps : ∀ k, (f.factories k).KeepsNames)
    {c₁ c₂ : Command} {n : Name} (h₁ : f.request? c₁ = some (b, n)) (between : List Command)
    (h₂ : ((f.step c₁).2.run between).request? c₂ = some (b, n)) :
    ∃ l, (f.step c₁).1 = .logger l ∧ (((f.step c₁).2.run between).step c₂).1 = .logger l ∧
      l.backend = b ∧ l.name = n ∧ l ∈ (((f.step c₁).2.run between).step c₂).2.loggers := by
  have hkeepsLater : ∀ k, (((f.step c₁).2.run between).factories k).KeepsNames := fun k =>
    keepsNames_run (hkeeps k) (c₁ :: between)
  have hinternsLast : (((f.step c₁).2.run between).step c₂).2.Interns b := by
    have hall := hinterns.run (c₁ :: (between ++ [c₂]))
    rwa [run_cons, run_append] at hall
  obtain ⟨g₁, -, hstep₁⟩ := step_eq_fetch hkeeps h₁
  obtain ⟨g₂, -, hstep₂⟩ := step_eq_fetch hkeepsLater h₂
  have hfirst : (g₁.fetch b n).1 ∈ (((f.step c₁).2.run between).step c₂).2.loggers := by
    apply (loggers_run ((f.step c₁).2.run between) [c₂]).subset
    apply (loggers_run (f.step c₁).2 between).subset
    rw [hstep₁, loggers_fetch]
    simp
  have hsecond : (g₂.fetch b n).1 ∈ (((f.step c₁).2.run between).step c₂).2.loggers := by
    rw [hstep₂, loggers_fetch]
    simp
  have hname : (g₁.fetch b n).1.name = (g₂.fetch b n).1.name := by
    have hname₁ : (g₁.fetch b n).1.name = n := name_handle g₁ b n
    have hname₂ : (g₂.fetch b n).1.name = n := name_handle g₂ b n
    rw [hname₁, hname₂]
  -- Both have been handed out by now, so they are told apart by their names only.
  have hsame := hinternsLast.eq_of_name hfirst hsecond (backend_handle g₁ b n)
    (backend_handle g₂ b n) hname
  refine ⟨(g₁.fetch b n).1, by rw [hstep₁], ?_, backend_handle g₁ b n, name_handle g₁ b n, hfirst⟩
  rw [hsame, hstep₂]

end Facade

/-! ### Agreement -/

/-- What a path, its parts being `outer` and then `last`, and a name have in common. -/
structure Agreement (outer : List (List Char)) (last : List Char) (n : Name) : Prop where
  /-- All ways to write the path lead to the name. -/
  spells : ∀ m, Name.Spells outer last m → m = n
  segments : n.segments = outer ++ [last]
  /-- The parent is the name that the path around leads to. -/
  parent : n.parent? = some (.ofChars (joinPath outer))
  /-- For a single part, this is the root. -/
  top : outer = [] → n.parent? = some .root
  /-- Two commands that ask a backend for the logger of the path, in any two ways, get the same
      one. From then on it goes by the threshold that the backend has for the name. -/
  shared : ∀ (start : Facade) (b : Nat), (start.backends b).handles = [] → start.loggers = [] →
    (∀ k, (start.factories k).typeNames = []) → ∀ (first between later : List Command)
    (c₁ c₂ : Command), (start.run first).AcquiresPath b outer last c₁ →
    (start.run (first ++ c₁ :: between)).AcquiresPath b outer last c₂ →
    ∃ l, ((start.run first).step c₁).1 = .logger l ∧
      ((start.run (first ++ c₁ :: between)).step c₂).1 = .logger l ∧ l.backend = b ∧ l.name = n ∧
      (start.run (first ++ c₁ :: (between ++ c₂ :: later))).threshold l =
        ((start.run (first ++ c₁ :: (between ++ c₂ :: later))).backends b).directives.threshold n

/-- **All ways to acquire the logger of a path agree.** Its name is the text of the parts with
    dots between them. -/
theorem path_agreement {outer : List (List Char)} {last : List Char}
    (h : ∀ w ∈ outer ++ [last], IsIdentifier w) :
    Agreement outer last ⟨joinDots (outer ++ [last])⟩ where
  spells _ hm := hm.eq h
  segments := Name.segments_joinDots h
  parent := by
    have houter : ∀ w ∈ outer, IsIdentifier w := fun w hw => h w (by simp [hw])
    rw [Name.parent?_joinDots h, Name.ofChars_joinPath houter, Name.ofChars_joinDots houter]
  top := by
    rintro rfl
    exact Name.parent?_joinDots h
  shared := by
    intro start b hbackend hloggers hfactories first between later c₁ c₂ h₁ h₂
    have hinterns := (Facade.Interns.of_new hbackend hloggers).run first
    have hkeeps : ∀ k, ((start.run first).factories k).KeepsNames := fun k =>
      Facade.keepsNames_run (Factory.keepsNames_of_new (hfactories k)) first
    have hsecond := h₂.request? h
    rw [Facade.run_append, Facade.run_cons] at hsecond
    obtain ⟨l, hreply₁, hreply₂, hb, hname, hheld⟩ :=
      Facade.step_eq_step hinterns hkeeps (h₁.request? h) between hsecond
    simp only [Facade.run_append, Facade.run_cons]
    -- Whatever comes later, the logger is still there and still has a handle of the backend.
    have hkept := (Facade.loggers_run _ later).subset hheld
    have hinternsLater := hinterns.run (c₁ :: (between ++ c₂ :: later))
    rw [Facade.run_cons, Facade.run_append, Facade.run_cons] at hinternsLater
    have hthreshold := hinternsLater.threshold_eq hkept hb
    rw [hname] at hthreshold
    exact ⟨l, hreply₁, hreply₂, hb, hname, hthreshold⟩

/-- The path `app::db::Pool`, met as a type behind two marks, as a singleton of a module with a
    companion around it, and by name; between two of these, others are met and thresholds are
    set in vain. -/
theorem path_agreement_of_pool :
    let outer := ["app".toList, "db".toList]
    let last := "Pool".toList
    let raw := "&mut dyn app::db::Pool<Option<u8>>".toList
    let c : Context := { scopes := [⟨"app".toList, .module⟩, ⟨"items".toList, .companion⟩,
      ⟨"db".toList, .module⟩, ⟨last, .singleton⟩] }
    let d := ({ fallback := .atLeast .warn } : Directives).assign (.ofString "app.db") .off
    let start : Facade := { backends := fun _ => .relay { directives := d } }
    let between : List Command := [.acquire 0 (.name "app".toList), .setStrategy 1 .bySymbol,
      .setDirectives 0 {}]
    let f := start.run (.acquire 0 (.name "app.db.Pool".toList) :: between)
    (∀ w ∈ outer ++ [last], IsIdentifier w) ∧ Name.ofType raw = .ofString "app.db.Pool" ∧
      c.resolve .byType = .ofString "app.db.Pool" ∧
      (Name.ofString "app.db.Pool").segments = ["app".toList, "db".toList, "Pool".toList] ∧
      (Name.ofString "app.db.Pool").parent? = some (.ofString "app.db") ∧
      ∃ l, (start.step (.acquire 0 (.name "app.db.Pool".toList))).1 = .logger l ∧
        (f.step (.acquire 1 (.type raw))).1 = .logger l ∧
        (f.step (.acquire 1 (.type raw))).2.threshold l = .off := by
  intro outer last raw c d start between f
  have hparts : ∀ w ∈ outer ++ [last], IsIdentifier w := by decide +kernel
  have hname : Name.ofString "app.db.Pool" = ⟨joinDots (outer ++ [last])⟩ := by decide
  have hwritten : raw = TypeText.written [.mutRef, .dyn] (joinPath (outer ++ [last]))
      (some "Option<u8>".toList) := by decide
  have hagree := path_agreement hparts
  rw [← hname] at hagree
  have hnamed : start.AcquiresPath 0 outer last (.acquire 0 (.name "app.db.Pool".toList)) :=
    .named rfl (by decide)
  have htyped : f.AcquiresPath 0 outer last (.acquire 1 (.type raw)) := by
    have hbackend : (f.factories 1).backend = 0 := by decide +kernel
    rw [hwritten]
    exact .type hbackend [.mutRef, .dyn] (some "Option<u8>".toList)
  obtain ⟨l, hreply₁, hreply₂, -, -, hthreshold⟩ :=
    hagree.shared start 0 rfl rfl (fun _ => rfl) [] between [] _ _ hnamed htyped
  refine ⟨hparts, ?_, ?_, hagree.segments, hagree.parent, l, hreply₁, hreply₂, ?_⟩
  · rw [hwritten]
    exact hagree.spells _ (.type [.mutRef, .dyn] (some "Option<u8>".toList))
  · exact hagree.spells _ (.place (by decide) .byType)
  · have hoff : (((f.step (.acquire 1 (.type raw))).2.backends 0).directives.threshold
        (Name.ofString "app.db.Pool")) = .off := by decide +kernel
    rw [← hoff]
    exact hthreshold

end LoggerTree
