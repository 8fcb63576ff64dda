import LoggerTree.CommandLine
import LoggerTree.Proofs.Context.OfType
import Mathlib.Tactic.Tauto

/-! # Names on the command line

    The command `name` makes a name of a type text by itself, from the path if there is one and
    from the whole text if not. A type goes the longer way over its context. Both come to the same
    name.

    Main statement: `types_named_alike`. It is about the answer to the request, and it also says
    which command lines make the request.
-/

namespace LoggerTree

namespace CommandLine

/-! ### Handing a text over -/

/-- The command lines that ask for the name of a type: the text stands behind two hyphens, or it
    does not look like an option. -/
def HandsOver (arguments : List (List Char)) (raw : List Char) : Prop :=
  arguments = ["name".toList, "--".toList, raw] ∨
    looksLikeOption raw = false ∧
      (arguments = ["name".toList, raw] ∨ arguments = ["name".toList, raw, "--".toList])

/-- One step of reading, where no option takes a path. -/
theorem readArguments_cons (s : List Char) (rest : List (List Char)) :
    readArguments false (s :: rest) =
      if s = "--".toList then rest.map .value
      else if looksLikeOption s = false then .value s :: readArguments false rest
      else (if asksForHelp s then .help else .misuse) :: readArguments false rest := by
  -- Reading opens the rest too, because an option may take the argument behind it.
  cases rest <;> change (if _ then _ else _) = _
  all_goals
    simp only [Bool.not_eq_eq_eq_not, Bool.not_true, Bool.false_eq_true, false_and, if_false]
    -- The tests are the same ones up to the attached path, and that is out of place either way.
    split
    · rfl
    · split
      · rfl
      · split
        · rfl
        · cases attachedPath? s <;> rfl

theorem config_not_mem_readArguments (rest : List (List Char)) (path : List Char) :
    Argument.config path ∉ readArguments false rest := by
  induction rest with
  | nil => exact List.not_mem_nil
  | cons s rest ih =>
    rw [readArguments_cons]
    split
    · simp
    · split
      · simp [ih]
      · split <;> simp [ih]

theorem readArguments_eq_nil_iff {rest : List (List Char)} :
    readArguments false rest = [] ↔ rest = [] ∨ rest = ["--".toList] := by
  cases rest with
  | nil => exact iff_of_true rfl (.inl rfl)
  | cons s rest =>
    rw [readArguments_cons]
    by_cases hs : s = "--".toList
    · simp [hs]
    · have hne : s :: rest ≠ ["--".toList] := fun h => hs (List.cons.inj h).1
      rw [if_neg hs]
      apply iff_of_false
      · split <;> simp
      · rintro (h | h)
        · cases h
        · exact hne h

/-- The arguments that come to a single value. -/
theorem readArguments_eq_value_iff {rest : List (List Char)} {raw : List Char} :
    readArguments false rest = [.value raw] ↔ rest = ["--".toList, raw] ∨
      looksLikeOption raw = false ∧ (rest = [raw] ∨ rest = [raw, "--".toList]) := by
  have hhyphens : looksLikeOption "--".toList = true := by decide
  cases rest with
  | nil => exact iff_of_false (List.cons_ne_nil _ _).symm (by simp)
  | cons s rest =>
    rw [readArguments_cons]
    by_cases hs : s = "--".toList
    · -- Behind two hyphens everything is a value.
      subst hs
      rw [if_pos rfl]
      constructor
      · intro h
        obtain ⟨v, rfl, hv⟩ := List.map_eq_singleton_iff.1 h
        cases hv
        exact .inl rfl
      · rintro (h | ⟨hvalue, h | h⟩)
        · rw [(List.cons.inj h).2]
          rfl
        all_goals
          rw [← (List.cons.inj h).1, hhyphens] at hvalue
          cases hvalue
    · rw [if_neg hs]
      have hplain : s :: rest ≠ ["--".toList, raw] := fun h => hs (List.cons.inj h).1
      by_cases hvalue : looksLikeOption s = false
      · rw [if_pos hvalue, List.cons_eq_cons, readArguments_eq_nil_iff]
        constructor
        · rintro ⟨hraw, hrest⟩
          cases hraw
          exact .inr ⟨hvalue, hrest.imp (by rintro rfl; rfl) (by rintro rfl; rfl)⟩
        · rintro (h | ⟨-, h | h⟩)
          · exact absurd h hplain
          · cases h
            exact ⟨rfl, .inl rfl⟩
          · cases h
            exact ⟨rfl, .inr rfl⟩
      · -- An option is no value, and so cannot be the text.
        rw [if_neg hvalue]
        apply iff_of_false
        · split <;> simp
        · rintro (h | ⟨hraw, h | h⟩)
          · exact hplain h
          all_goals
            rw [(List.cons.inj h).1] at hvalue
            exact hvalue hraw

/-- What stops the taking of arguments is never a request. -/
theorem collect_ne_request (value? config? : Option (List Char)) (items : List Argument)
    (r : Request) : collect value? config? items ≠ .error (.request r) := by
  fun_induction collect value? config? items <;> simp_all

/-- Where no argument is a path, a value is all that can be taken. -/
theorem collect_eq_value_iff {items : List Argument} (h : ∀ path, Argument.config path ∉ items)
    {raw : List Char} :
    (∃ config?, collect none none items = .ok (some raw, config?)) ↔ items = [.value raw] := by
  constructor
  · rintro ⟨config?, hcollect⟩
    cases items with
    | nil => simp [collect] at hcollect
    | cons first rest =>
      cases first with
      | config path => exact absurd (by simp) (h path)
      | help => simp [collect] at hcollect
      | misuse => simp [collect] at hcollect
      | value s =>
        -- Anything behind the value would be one argument too many.
        rw [collect] at hcollect
        cases rest with
        | nil =>
          cases hcollect
          rfl
        | cons second others =>
          cases second with
          | config path => exact absurd (by simp) (h path)
          | value t => simp [collect] at hcollect
          | help => simp [collect] at hcollect
          | misuse => simp [collect] at hcollect
  · rintro rfl
    exact ⟨none, rfl⟩

theorem handsOver_cons {command : List Char} {rest : List (List Char)} {raw : List Char} :
    HandsOver (command :: rest) raw ↔
      command = "name".toList ∧ readArguments false rest = [.value raw] := by
  rw [readArguments_eq_value_iff, HandsOver]
  simp only [List.cons.injEq]
  tauto

/-- No other command asks for the name of a type. -/
theorem parse_ne_name {preset : Option (List Char)} {command : List Char}
    (h : command ≠ "name".toList) (rest : List (List Char)) (raw : List Char) :
    parse preset (command :: rest) ≠ .request (.name raw) := by
  unfold parse
  dsimp only
  rw [if_neg h]
  -- What is left is help, and a check of a logger.
  split
  · simp
  · split
    · split
      · simp
      · split <;> simp
      · simp
    · split
      · cases hcollect : collect none none (readArguments true rest) with
        | error e =>
          have hne := collect_ne_request none none (readArguments true rest) (.name raw)
          rw [hcollect] at hne
          simpa using hne
        | ok taken =>
          obtain ⟨value?, config?⟩ := taken
          cases value? with
          | none => simp
          | some logger =>
            dsimp only
            split <;> simp
      · simp

/-- **These are the command lines that ask for the name of a type.** -/
theorem parse_eq_name_iff {preset : Option (List Char)} {arguments : List (List Char)}
    {raw : List Char} :
    parse preset arguments = .request (.name raw) ↔ HandsOver arguments raw := by
  cases arguments with
  | nil => simp [parse, HandsOver]
  | cons command rest =>
    rw [handsOver_cons]
    by_cases hname : command = "name".toList
    · subst hname
      unfold parse
      dsimp only
      rw [if_neg (by decide), if_neg (by decide), if_pos rfl,
        ← collect_eq_value_iff (config_not_mem_readArguments rest)]
      cases hcollect : collect none none (readArguments false rest) with
      | error e =>
        have hne := collect_ne_request none none (readArguments false rest) (.name raw)
        rw [hcollect] at hne
        simpa using hne
      | ok taken =>
        obtain ⟨value?, config?⟩ := taken
        cases value? <;> simp
    · exact iff_of_false (parse_ne_name hname rest raw) fun h => hname h.1

/-! ### The answer -/

/-- The name of a type is what the request for it is answered with. -/
theorem answer_name (look : List Char → Option (Except FileError String)) (raw : List Char) :
    (answer look (.name raw)).exit = 0 ∧
      (answer look (.name raw)).stdout = (Name.ofType raw).toString ++ "\n" := by
  rw [answer]
  unfold answerName
  cases herase : TypeText.erase raw with
  | none =>
    rw [Name.ofType_of_erase_eq_none herase]
    exact ⟨rfl, rfl⟩
  | some erased =>
    rw [Name.ofType_of_erase herase]
    exact ⟨rfl, rfl⟩

end CommandLine

/-! ### The promise -/

/-- What is promised of the name of a type text. -/
structure NamedAlike (raw : List Char) : Prop where
  /-- The name is that of the path, whether or not arguments have arguments themselves, and that of
      the whole text where there is no path. -/
  path : ∀ erased, TypeText.erase raw = some erased → Name.ofType raw = .ofChars erased.path
  verbatim : TypeText.erase raw = none → Name.ofType raw = .ofChars raw
  /-- The strategy does not matter. -/
  resolve : ∀ s, (Context.ofType raw).resolve s = Name.ofType raw
  /-- The request for the name of the type is answered with this name and nothing else. -/
  answered : ∀ look,
    (CommandLine.answer look (.name raw)).exit = 0 ∧
      (CommandLine.answer look (.name raw)).stdout = (Name.ofType raw).toString ++ "\n"
  /-- Whoever hands the text over on the command line gets this answer, and every text can be
      handed over. -/
  printed : ∀ look preset arguments, CommandLine.HandsOver arguments raw →
    (CommandLine.run look preset arguments).exit = 0 ∧
      (CommandLine.run look preset arguments).stdout = (Name.ofType raw).toString ++ "\n"
  reached : ∀ preset arguments,
    CommandLine.parse preset arguments = .request (.name raw) ↔
      CommandLine.HandsOver arguments raw
  reachable : CommandLine.HandsOver ["name".toList, "--".toList, raw] raw
  /-- Arguments do not matter. -/
  erased : ∀ other e f, TypeText.erase raw = some e → TypeText.erase other = some f →
    e.path = f.path → Name.ofType raw = Name.ofType other

/-- **The command line names every type as the library does**, after its path alone. -/
theorem types_named_alike (raw : List Char) : NamedAlike raw where
  path := fun _ => Name.ofType_of_erase
  verbatim := Name.ofType_of_erase_eq_none
  resolve := Context.resolve_ofType raw
  answered := fun look => CommandLine.answer_name look raw
  printed := by
    intro look preset arguments h
    rw [CommandLine.run_of_request (CommandLine.parse_eq_name_iff.2 h)]
    exact CommandLine.answer_name look raw
  reached := fun _ _ => CommandLine.parse_eq_name_iff
  reachable := .inl rfl
  erased := by
    intro other e f he hf heq
    rw [Name.ofType_of_erase he, Name.ofType_of_erase hf, heq]

/-- A type with arguments of arguments behind two marks, and the same path with a colon too many in
    it. A text that looks like an option is handed over behind two hyphens. -/
theorem types_named_alike_of_colons :
    let raw := "&dyn app:::Pool<Vec<u8>>".toList
    let plain := "app:::Pool".toList
    let option := "--config=(u8,)".toList
    Name.ofType raw = Name.ofType plain ∧
      (CommandLine.run (fun _ => none) none ["name".toList, raw]).stdout = "app.:Pool\n" ∧
      (CommandLine.run (fun _ => none) none ["name".toList, "--".toList, option]).stdout =
        "--config=(u8,)\n" := by
  intro raw plain option
  have hraw := types_named_alike raw
  have herase : TypeText.erase raw = some ⟨plain, true⟩ := by decide +kernel
  have hoption : TypeText.erase option = none := by decide +kernel
  refine ⟨?_, ?_, ?_⟩
  · exact hraw.erased plain ⟨plain, true⟩ ⟨plain, false⟩ herase (by decide +kernel) rfl
  · rw [(hraw.printed _ none _ (.inr ⟨by decide, .inl rfl⟩)).2, hraw.path _ herase]
    decide
  · rw [((types_named_alike option).printed _ none _ (types_named_alike option).reachable).2,
      (types_named_alike option).verbatim hoption]
    decide

end LoggerTree
