import RealmDriver.Machine.Script
import RealmDriver.Proofs.Machine
import RealmDriver.Proofs.Number.Text
import RealmDriver.Proofs.Text.Phrases
import RealmDriver.Realm.Session

namespace RealmDriver.Session

variable {ω : Type} (m : Machine ω)

/-- The outcomes of a session with a command, and what they leave of what was there before. -/
inductive Course (line : String) (o : ω) : Except RealmError String → ω → Prop
  | unstarted (e : RealmError) : Course line o (.error e) o
  | broken (e : RealmError) {i : Invocation} {files : FileTree} {fault : SystemFault} {o' : ω}
      (hline : i.arguments.getLast? = some line) (hrun : m.run i files o = (.error fault, o'))
      (hclean : ∀ a ∈ i.arguments, Text.NulFree a) : Course line o (.error e) o'
  | finished (typed : Bool) {i : Invocation} {files : FileTree} {f : Finished} {o' : ω}
      (hline : i.arguments.getLast? = some line) (hrun : m.run i files o = (.ok f, o'))
      (hclean : ∀ a ∈ i.arguments, Text.NulFree a) : Course line o (outcome typed f) o'

variable (h : Host ω) {line : String}

theorem find_outcome (name : String) : ∃ r, (find m name).outcome h = (r, h) := by
  simp only [find, Machine.find, Action.outcome_bind, Action.outcome_get, Action.outcome_pure]
  cases m.find? h.outside name with
  | none => exact ⟨_, rfl⟩
  | some path => exact ⟨_, rfl⟩

theorem destination_outcome (secrets : Dictionary) :
    ∃ r, (destination m secrets).outcome h = (r, h) := by
  simp only [destination, Action.outcome_bind, Action.outcome_ofExcept]
  cases require secrets .realmAddress with
  | error e => exact ⟨_, rfl⟩
  | ok realm =>
    cases require secrets .user with
    | error e => exact ⟨_, rfl⟩
    | ok user =>
      obtain ⟨r, hr⟩ := find_outcome m h "ssh"
      simp only [hr]
      cases r with
      | error e => exact ⟨_, rfl⟩
      | ok path => exact ⟨_, rfl⟩

section

variable {m h} {h' : Host ω} {secrets : Dictionary} {d : Destination} {login : Login} {i : Invocation}

theorem of_find_ok {name : String} {p : Path} (hfind : (find m name).outcome h = (.ok p, h')) :
    h' = h ∧ m.find? h.outside name = some p := by
  simp only [find, Machine.find, Action.outcome_bind, Action.outcome_get, Action.outcome_pure] at hfind
  cases hlookup : m.find? h.outside name with
  | none =>
    rw [hlookup] at hfind
    cases hfind
  | some p' =>
    rw [hlookup] at hfind
    cases hfind
    exact ⟨rfl, rfl⟩

theorem of_require_ok {k : Secret} {text : String} (hrequire : require secrets k = .ok text) :
    secrets.secret? k = some text := by
  rw [require] at hrequire
  cases hk : secrets.secret? k with
  | none =>
    rw [hk] at hrequire
    cases hrequire
  | some text' =>
    rw [hk] at hrequire
    cases hrequire
    rfl

theorem of_destination_ok (hd : ((destination m secrets).outcome h).1 = .ok d) :
    secrets.secret? .realmAddress = some d.realm ∧ secrets.secret? .user = some d.user ∧
      m.find? h.outside "ssh" = some d.shell := by
  obtain ⟨realm, h₁, hrealm, hrest⟩ := Action.of_outcome_bind_ok (Prod.ext hd rfl)
  obtain ⟨user, h₂, huser, hrest⟩ := Action.of_outcome_bind_ok hrest
  obtain ⟨shell, h₃, hshell, hmade⟩ := Action.of_outcome_bind_ok hrest
  cases (congrArg Prod.snd hrealm : h = h₁)
  cases (congrArg Prod.snd huser : h = h₂)
  cases hmade
  exact ⟨of_require_ok (congrArg Prod.fst hrealm), of_require_ok (congrArg Prod.fst huser),
    (of_find_ok hshell).2⟩

theorem of_invocation_ok {arguments : List String}
    (hi : (invocation m d login arguments).outcome h = (.ok i, h')) :
    (login.typed? = none ∧ i = { program := d.shell, arguments }) ∨
      ∃ text typist, login.typed? = some text ∧ m.find? h.outside "sshpass" = some typist ∧
        i = { program := typist, arguments := ["-e"] ++ login.prompt ++ [d.shell] ++ arguments
              password := some text } := by
  rw [invocation] at hi
  cases htyped : login.typed? with
  | none =>
    rw [htyped] at hi
    cases hi
    exact .inl ⟨rfl, rfl⟩
  | some text =>
    rw [htyped] at hi
    obtain ⟨typist, h₁, hfind, hmade⟩ := Action.of_outcome_bind_ok hi
    cases hmade
    exact .inr ⟨text, typist, rfl, (of_find_ok hfind).2, rfl⟩

end

theorem invocation_outcome (d : Destination) (login : Login) {arguments : List String}
    (hline : arguments.getLast? = some line) :
    ∃ r, (invocation m d login arguments).outcome h = (r, h) ∧
      ∀ i, r = .ok i → i.arguments.getLast? = some line := by
  rw [invocation]
  cases login.typed? with
  | none =>
    refine ⟨_, rfl, fun i hi ↦ ?_⟩
    cases hi
    exact hline
  | some text =>
    obtain ⟨r, hr⟩ := find_outcome m h "sshpass"
    simp only [Action.outcome_bind, hr]
    cases r with
    | error e => exact ⟨_, rfl, fun i hi ↦ nomatch hi⟩
    | ok typist =>
      refine ⟨_, rfl, fun i hi ↦ ?_⟩
      cases hi
      change (["-e"] ++ login.prompt ++ [d.shell] ++ arguments).getLast? = some line
      rw [List.getLast?_append, hline]
      rfl

theorem exec_course {i : Invocation} (hline : i.arguments.getLast? = some line) :
    Course m line h.outside ((exec m i).outcome h).1 ((exec m i).outcome h).2.outside := by
  rw [exec, Action.outcome_bind, Action.outcome_rephrase]
  rcases m.start_outcome h i with ⟨-, hstart⟩ | ⟨hclean, hstart⟩
  · rw [hstart]
    exact .unstarted _
  · rw [hstart]
    rcases hrun : m.run i h.files h.outside with ⟨fault | f, o'⟩
    · exact .broken _ hline hrun hclean
    · exact .finished _ hline hrun hclean

theorem arguments_getLast? (s : SessionSettings) (d : Destination) (login : Login) (keyPath : Option Path)
    (line : String) : (arguments s d login keyPath line).getLast? = some line := by
  simp [arguments, List.getLast?_append]

theorem session_course (s : SessionSettings) (d : Destination) (login : Login)
    (keyPath : Option Path) (line : String) :
    let session : Action (Host ω) RealmError String := do
      exec m (← invocation m d login (arguments s d login keyPath line))
    Course m line h.outside (session.outcome h).1 (session.outcome h).2.outside := by
  obtain ⟨r, hr, hline⟩ := invocation_outcome m h d login
    (arguments_getLast? s d login keyPath line)
  cases r with
  | error e =>
    simp only [Action.outcome_bind, hr]
    exact .unstarted e
  | ok i =>
    simp only [Action.outcome_bind, hr]
    exact exec_course m h (hline i rfl)

theorem runAs_course (s : SessionSettings) (d : Destination) (login : Login) (line : String) :
    Course m line h.outside ((runAs s m d login line).outcome h).1
      ((runAs s m d login line).outcome h).2.outside := by
  cases login with
  | password text => exact session_course m h s d (.password text) none line
  | key text passphrase =>
    simp only [runAs, Host.onFiles, Action.outcome_bind, Action.outcome_on]
    rcases hkey : (writeKey s.keyDirectory text).outcome h.files with ⟨e | path, files⟩
    · exact .unstarted e
    · simp only [Action.outcome_andAlways]
      exact session_course m ⟨files, h.outside⟩ s d (.key text passphrase) (some path) line

theorem run_course (s : SessionSettings) (secrets : Dictionary) (command : List String) :
    Course m (Shell.line command) h.outside ((run s m secrets command).outcome h).1
      ((run s m secrets command).outcome h).2.outside := by
  obtain ⟨r, hr⟩ := destination_outcome m h secrets
  rw [run, Action.outcome_bind, hr]
  cases r with
  | error e => exact .unstarted e
  | ok d =>
    cases Login.ofSecrets? secrets with
    | none => exact .unstarted _
    | some login => exact runAs_course m h s d login _

theorem lowerAscii_of_isDigit {c : Char} (h : Numeral.isDigit c = true) :
    Text.lowerAscii c = [c] := by
  have hle : c.toNat ≤ '9'.toNat := of_decide_eq_true (Bool.and_eq_true_iff.1 h).2
  have hnine : '9'.toNat = 57 := rfl
  rw [Text.lowerAscii, if_neg (by omega), if_neg (by omega), Numeral.toLower_of_isDigit h]

theorem exitCode_text {c : Char} (hdigit : Numeral.isDigit c = false) (hminus : c ≠ '-')
    (e : Ending) : c ∉ (toString (exitCode e)).toList.flatMap Text.lowerAscii := by
  cases e with
  | killed signal =>
    have htext : (toString (-1 : Int)).toList.flatMap Text.lowerAscii = ['-', '1'] := by decide
    rw [exitCode, htext]
    rintro (_ | ⟨_, _ | ⟨_, h⟩⟩)
    · exact hminus rfl
    · exact absurd hdigit (by decide)
    · cases h
  | exited code =>
    have htext : (toString (exitCode (.exited code))).toList = Nat.toDigits 10 code := by
      change (String.ofList (Nat.toDigits 10 code)).toList = _
      exact String.toList_ofList
    intro hc
    rw [htext] at hc
    obtain ⟨d, hd, hc⟩ := List.mem_flatMap.1 hc
    have hd := Numeral.isDigit_of_mem_toDigits hd
    rw [lowerAscii_of_isDigit hd, List.mem_singleton] at hc
    rw [hc, hd] at hdigit
    cases hdigit

theorem outcome_of_unmarked (typed : Bool) {f : Finished} (hend : f.ending.isSuccess = false)
    (hmark : Verdict.marksSuccess (Text.decodeLossy f.output) = false) :
    ∃ e, outcome typed f = .error e := by
  have hsaid : Verdict.marksSuccess
      s!"{Text.trim (Text.decodeLossy f.output)}: exit status {exitCode f.ending}" = false := by
    -- what stands behind the output has neither letter that a mark of success ends with
    refine Bool.eq_false_iff.2 fun h ↦ Bool.eq_false_iff.1 hmark ?_
    have hcode := Verdict.marksSuccess_of_append (exitCode_text (by decide) (by decide) f.ending)
      (exitCode_text (by decide) (by decide) f.ending) h
    exact Verdict.marksSuccess_of_trim
      (Verdict.marksSuccess_of_append (by decide) (by decide) hcode)
  simp only [outcome, hend, Bool.false_eq_true, if_false]
  split
  · exact ⟨_, rfl⟩
  · obtain ⟨e, he⟩ := classify_of_unmarked hsaid
    rw [he]
    exact ⟨e, rfl⟩

end RealmDriver.Session

namespace RealmDriver.Remote

def workstation : Host Script where
  files := FileTree.set {} ["tmp"] (.directory 0o777)
  outside := { programs := [("ssh", "/bin/ssh"), ("sshpass", "/bin/sshpass")], table := [] }

end RealmDriver.Remote
