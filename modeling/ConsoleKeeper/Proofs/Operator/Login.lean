import ConsoleKeeper.Operator.Playbook
import ConsoleKeeper.Proofs.Command.Masking
import ConsoleKeeper.Proofs.Command.Words
import ConsoleKeeper.Proofs.Data.Literal

/-!
# `ConsoleKeeper.Proofs.Operator.Login`: the token of a login

A command is shown in two ways: as a command line, in which secrets are masked, and as a record,
which leaves the list of secrets out. The token of a login is among the arguments, and both show
those.

The command line is masked after its words were quoted. Where quoting leaves a token as it is,
masking finds it, and reading the line does not bring it back. Quoting changes a single quote,
though. A token with one inside is not found, and whoever reads the line gets it. The record masks
nothing: it has every token that a literal shows as it is.

`loginCommand_showsToken` says which tokens are read in which rendering. The lemmas before it are
about any command.
-/

set_option autoImplicit false

namespace ConsoleKeeper

namespace Command

variable {command : Command} {secret : String}

/-- The command line that is shown, read back, has the text in one of its words. -/
def ReadsBack (command : Command) (text : String) : Prop :=
  ∃ words ∈ Words.split? command.display, ∃ word ∈ words, text.toList <:+: word.toList

/-- The record of the command in one line has the text in it. -/
def Prints (command : Command) (text : String) : Prop :=
  text.toList <:+: command.literal.toList

/-! ### Command lines -/

/-- The words are read from the characters of the masked line. -/
theorem readsBack_iff (command : Command) (text : String) :
    command.ReadsBack text ↔
      ∃ words ∈ Words.readFrom .gap [] (masked command.secrets
          (List.intercalate [' '] ((command.words.map String.toList).map Words.quote))),
        ∃ word ∈ words, text.toList <:+: word := by
  simp only [ReadsBack, Words.split?, display, String.toList_ofList, Words.toList_join,
    Option.mem_def, Option.map_eq_some_iff]
  constructor
  · rintro ⟨_, ⟨words, hread, rfl⟩, _, hmem, hpart⟩
    obtain ⟨word, hword, rfl⟩ := List.mem_map.mp hmem
    rw [String.toList_ofList] at hpart
    exact ⟨words, hread, word, hword, hpart⟩
  · rintro ⟨words, hread, word, hword, hpart⟩
    refine ⟨_, ⟨words, hread, rfl⟩, _, List.mem_map_of_mem hword, ?_⟩
    rwa [String.toList_ofList]

instance (command : Command) (text : String) : Decidable (command.ReadsBack text) :=
  decidable_of_iff _ (readsBack_iff command text).symm

/-- A command line is tidy if all that is masked in it can be. -/
theorem tidy_display
    (h : ∀ secret ∈ command.secrets, secret ≠ "" → Words.Tidy.IsMaskable secret.toList) :
    Words.Tidy .between command.display.toList := by
  rw [display, String.toList_ofList]
  exact masked_induction (Words.Tidy.join command.words)
    fun secret hmem hne _ htext => htext.replaceAll (h secret hmem hne)

/-- No secret without a star is on the command line. -/
theorem not_infix_display (hmem : secret ∈ command.secrets) (hne : secret ≠ "")
    (hstar : '*' ∉ secret.toList) : ¬secret.toList <:+: command.display.toList := by
  rw [display, String.toList_ofList]
  exact not_infix_masked hmem hne hstar _

/-- Secrets that can be masked are not read back. -/
theorem not_readsBack (hmem : secret ∈ command.secrets) (hne : secret ≠ "")
    (hstar : '*' ∉ secret.toList)
    (hmaskable : ∀ secret ∈ command.secrets, secret ≠ "" → Words.Tidy.IsMaskable secret.toList) :
    ¬command.ReadsBack secret := by
  rintro ⟨words, hread, word, hword, hpart⟩
  obtain ⟨hfull, hquote, -⟩ := hmaskable secret hmem hne
  have hstop : ∀ c, Words.IsStop c → c ∉ secret.toList := by
    rintro c (rfl | rfl)
    · exact hstar
    · exact hquote
  exact not_infix_display hmem hne hstar
    (Words.infix_of_split? (tidy_display hmaskable) hread hfull hstop hword hpart)

/-- A secret of one character is not read back, because its character is not on the line. -/
theorem not_readsBack_of_length_eq_one (hmem : secret ∈ command.secrets)
    (hstar : '*' ∉ secret.toList) (hone : secret.toList.length = 1) :
    ¬command.ReadsBack secret := by
  rintro ⟨words, hread, word, hword, hpart⟩
  obtain ⟨c, hc⟩ := List.length_eq_one_iff.mp hone
  have hne : secret ≠ "" := by
    rintro rfl
    cases hone
  have hline := not_infix_display hmem hne hstar
  rw [hc, List.singleton_infix_iff] at hpart hline
  exact hline (Words.mem_of_mem_split? hread hword hpart)

/-- A command line on which nothing is masked is read back as the words of the command. -/
theorem split?_display
    (h : ∀ secret ∈ command.secrets, secret ≠ "" →
      ¬secret.toList <:+: (Words.join command.words).toList) :
    Words.split? command.display = some command.words := by
  rw [display, masked_eq_self h, String.ofList_toList]
  exact Words.split?_join command.words

/-! ### Records in one line -/

/-- The literal of a command shows its words and its variables, and not its secrets. -/
theorem toList_literal (command : Command) :
    command.literal.toList =
      "ProcessCommand(program=".toList ++ ((Data.text command.program).literal ++
        (", args=".toList ++ ((Data.texts command.arguments).literal ++ (", env=".toList ++
          ((Data.object (variableFields command.environment)).literal ++ ")".toList))))) := by
  unfold literal
  dsimp only
  iterate 6 rw [String.toList_append]
  simp only [String.toList_ofList, List.append_assoc]

instance (command : Command) (text : String) : Decidable (command.Prints text) :=
  decidable_of_iff _ (Iff.of_eq (congrArg (text.toList <:+: ·) (toList_literal command).symm))

/-- The record has printable characters only. -/
theorem isPrintable_of_mem_literal {c : Char} (h : c ∈ command.literal.toList) :
    Text.isPrintable c = true := by
  simp only [toList_literal, List.mem_append] at h
  obtain h | h | h | h | h | h | h := h
  · exact Text.isPrintable_of_mem (by decide) h
  · exact Text.isPrintable_of_mem_literal h
  · exact Text.isPrintable_of_mem (by decide) h
  · exact Data.isPrintable_of_mem_literal_texts h
  · exact Text.isPrintable_of_mem (by decide) h
  · refine Data.isPrintable_of_mem_literal_object (fun field hfield c hc => ?_) h
    obtain ⟨⟨name, value⟩, -, rfl⟩ := List.mem_map.mp hfield
    exact Text.isPrintable_of_mem_literal hc
  · exact Text.isPrintable_of_mem (by decide) h

/-- The record has the literal of each argument in it. -/
theorem literal_infix_literal {argument : String} (h : argument ∈ command.arguments) :
    Text.literal argument.toList <:+: command.literal.toList := by
  rw [toList_literal]
  refine List.infix_append_of_infix_right (List.infix_append_of_infix_right
    (List.infix_append_of_infix_right (List.infix_append_of_infix_left ?_)))
  exact Data.literal_infix_literal_texts h

end Command

namespace Operator

/-- What is told of the token of a login by the two ways to show the command. -/
structure ShowsToken (login : Command) (token : String) : Prop where
  /-- Without single quotes, or of one character, it is in no word of the command line. -/
  masked : '\'' ∉ token.toList ∨ token.toList.length = 1 → ¬login.ReadsBack token
  /-- Where the line of the quoted words does not have it, all words are read back. -/
  unmasked : ¬token.toList <:+: (Words.join login.words).toList →
    Words.split? login.display = some login.words
  /-- With a single quote inside, it is read back. -/
  revealed : Words.QuoteInside token.toList → login.ReadsBack token
  /-- With a character that is not printable, it is not in the record. -/
  escaped : (∃ c ∈ token.toList, Text.isPrintable c = false) → ¬login.Prints token
  /-- With nothing to escape, it is in the record. -/
  printed : Text.IsShown token.toList → login.Prints token

/-- The token of a login is hidden on the command line as long as quoting does not change it, and in
the record only if it cannot be shown as it is. -/
theorem loginCommand_showsToken (settings : CommandSettings) (credentials : Credentials)
    (environment : List (String × String)) (hne : credentials.token ≠ "")
    (hstar : '*' ∉ credentials.token.toList) :
    ShowsToken (loginCommand settings credentials environment) credentials.token := by
  have hsecret : credentials.token ∈ (loginCommand settings credentials environment).secrets :=
    List.mem_cons_self
  have hargument : "--token=" ++ credentials.token ∈
      (loginCommand settings credentials environment).arguments := by
    simp [loginCommand]
  have hunmasked (hline : ¬credentials.token.toList <:+:
      (Words.join (loginCommand settings credentials environment).words).toList) :
      Words.split? (loginCommand settings credentials environment).display =
        some (loginCommand settings credentials environment).words := by
    refine Command.split?_display fun secret hmem _ => ?_
    rwa [List.mem_singleton.mp hmem]
  refine ⟨fun hquote => ?_, hunmasked, fun hinside => ?_, ?_, fun hshown => ?_⟩
  · -- A token of one character may be a quote itself, and masking it leaves no tidy line.
    by_cases hone : credentials.token.toList.length = 1
    · exact Command.not_readsBack_of_length_eq_one hsecret hstar hone
    · refine Command.not_readsBack hsecret hne hstar fun secret hmem hfull => ?_
      rw [List.mem_singleton.mp hmem] at hfull ⊢
      refine ⟨mt String.toList_eq_nil_iff.mp hfull, hquote.resolve_right hone, ?_⟩
      intro hdouble
      exact hone (by rw [hdouble, List.length_singleton])
  · -- Quoting has taken the token apart, so masking does not find it and the line is read back
    -- whole.
    refine ⟨_, hunmasked (Words.not_infix_join hinside _), _, List.mem_cons_of_mem _ hargument, ?_⟩
    rw [String.toList_append]
    exact (List.suffix_append _ _).isInfix
  · rintro ⟨c, hc, hprintable⟩ hprints
    have htrue := Command.isPrintable_of_mem_literal (hprints.subset hc)
    rw [hprintable] at htrue
    cases htrue
  · have hliteral := Command.literal_infix_literal hargument
    rw [String.toList_append] at hliteral
    exact (hshown.infix_literal (by decide) (by decide)).trans hliteral

/-- An ordinary token is hidden on the command line, and the record has it. -/
theorem loginCommand_showsToken_plain :
    let token := "sa-token-5f2b9c"
    let login := loginCommand {} { host := "https://api", caFile := "/ca.crt", token } []
    token ≠ "" ∧ '*' ∉ token.toList ∧ ¬login.ReadsBack token ∧ login.Prints token := by
  intro token login
  have hne : token ≠ "" := by decide
  have hstar : '*' ∉ token.toList := by decide
  have hshows := loginCommand_showsToken {}
    { host := "https://api", caFile := "/ca.crt", token } [] hne hstar
  have hshown : Text.IsShown token.toList :=
    ⟨fun c => Text.isPrintable_of_mem (by decide), by decide, by decide⟩
  exact ⟨hne, hstar, hshows.masked (.inl (by decide)), hshows.printed hshown⟩

set_option maxRecDepth 4000 in
/-- A token with a single quote is read in both renderings, though neither has it when the login has
another token. -/
theorem quotedToken_read :
    let login (token : String) :=
      loginCommand {} { host := "https://api", caFile := "/ca.crt", token } []
    '*' ∉ "it's".toList ∧
      ¬(login "*****").ReadsBack "it's" ∧ (login "it's").ReadsBack "it's" ∧
      ¬(login "*****").Prints "it's" ∧ (login "it's").Prints "it's" := by
  decide

end Operator

end ConsoleKeeper
