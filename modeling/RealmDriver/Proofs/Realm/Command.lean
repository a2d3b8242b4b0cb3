import RealmDriver.Proofs.Realm.Session
import RealmDriver.Proofs.Text.Blank
import RealmDriver.Proofs.Text.Shell
import RealmDriver.Proofs.Validation
import RealmDriver.Realm.Remote

namespace RealmDriver

namespace Shell

theorem mem_quoted {w : List Char} {c : Char} (hc : c ∈ w) : c ∈ quoted w := by
  have hself : c ∈ quotedChar c := by
    rw [quotedChar]
    split
    · rename_i hquote
      rw [hquote]
      decide
    · exact List.mem_singleton.2 rfl
  rw [quoted]
  split
  · exact hc
  · exact List.mem_append_left _ (List.mem_cons_of_mem _ (List.mem_flatMap.2 ⟨c, hc, hself⟩))

theorem nulFree_of_line {words : List String} (h : Text.NulFree (line words)) :
    ∀ w ∈ words, Text.NulFree w := by
  intro w hw c hc
  refine h c ?_
  rw [line, String.toList_ofList]
  exact Text.mem_intercalate (mem_quoted hc) (List.mem_map_of_mem hw)

end Shell

namespace Command

def options : List String :=
  ["bladeset", "recoverypriority", "efsa", "volservice", "layout", "maxwidth", "stripeunit", "rgwidth",
    "rgdepth", "user", "group", "uperm", "gperm", "operm", "description", "encryption", "soft", "hard"]

variable (name : String) (parameters : Dictionary)

def chosen : List (String × String) :=
  options.filterMap fun option ↦ parameters[driverKey option]?.map (option, ·)

theorem words_chosen (names : List String) :
    (names.flatMap fun option ↦ match parameters[driverKey option]? with
      | some value => [option, value]
      | none => []) =
    (names.filterMap fun option ↦ parameters[driverKey option]?.map (option, ·)).flatMap
      fun p ↦ [p.1, p.2] := by
  induction names with
  | nil => rfl
  | cons option names ih =>
    rw [List.flatMap_cons, ih]
    cases hvalue : parameters[driverKey option]? with
    | none => rw [List.filterMap_cons_none (by rw [hvalue]; rfl), List.nil_append]
    | some value => rw [List.filterMap_cons_some (by rw [hvalue]; rfl), List.flatMap_cons]

theorem create_eq :
    create name parameters = "volume" :: "create" :: VolumeName.path name ::
      (chosen parameters).flatMap fun p ↦ [p.1, p.2] := by
  rw [chosen, ← words_chosen]
  rfl

theorem chosen_sublist : ((chosen parameters).map Prod.fst).Sublist options := by
  rw [chosen]
  induction options with
  | nil => exact .slnil
  | cons option names ih =>
    cases hvalue : parameters[driverKey option]? with
    | none =>
      rw [List.filterMap_cons_none (by rw [hvalue]; rfl)]
      exact ih.cons option
    | some value =>
      rw [List.filterMap_cons_some (by rw [hvalue]; rfl)]
      exact ih.cons_cons option

theorem mem_chosen (option value : String) :
    (option, value) ∈ chosen parameters ↔
      option ∈ options ∧ parameters[driverKey option]? = some value := by
  simp [chosen]

end Command

namespace Session

variable {ω : Type}

/-- A program was started with a line that a shell reads as the command. -/
def Reads (command : List String) (started : Machine.Started) : Prop :=
  ∃ line, started.1.arguments.getLast? = some line ∧ Shell.words? line = some command

theorem reads_of_clean {command : List String} {i : Invocation}
    (hline : i.arguments.getLast? = some (Shell.line command))
    (hclean : ∀ a ∈ i.arguments, Text.NulFree a) (r : Except SystemFault Finished) :
    Reads command (i, r) := by
  have hline' := hclean _ (List.mem_of_getLast? hline)
  exact ⟨_, hline, Shell.words?_line (Shell.nulFree_of_line hline')⟩

/-- A session fails before it starts anything, or starts one program, and that with the command. -/
theorem run_started (s : SessionSettings) (m : Machine ω) (secrets : Dictionary)
    (command : List String) (h : Host (List Machine.Started × ω)) :
    let done := (run s m.recording secrets command).outcome h
    (done.2.outside.1 = h.outside.1 ∧ ∃ e, done.1 = .error e) ∨
      ∃ started, done.2.outside.1 = h.outside.1 ++ [started] ∧ Reads command started := by
  intro done
  have hcourse := run_course m.recording h s secrets command
  change Course _ _ h.outside done.1 done.2.outside at hcourse
  obtain ⟨answer, files', o'⟩ := done
  cases hcourse with
  | unstarted e => exact .inl ⟨rfl, e, rfl⟩
  | broken e hline hrun hclean =>
    exact .inr ⟨_, (congrArg (·.2.1) hrun).symm, reads_of_clean hline hclean _⟩
  | finished typed hline hrun hclean =>
    exact .inr ⟨_, (congrArg (·.2.1) hrun).symm, reads_of_clean hline hclean _⟩

end Session

namespace Remote

variable {ω : Type} (s : SessionSettings)

theorem lookup_state (m : Machine ω) (name : String) (secrets : Dictionary) (h : Host ω) :
    ((lookup s m name secrets).outcome h).2 =
      ((Session.run s m secrets (Command.lookup name)).outcome h).2 := by
  simp only [lookup, read, Action.outcome_bind]
  rcases (Session.run s m secrets (Command.lookup name)).outcome h with ⟨e | text, h'⟩
  · rfl
  · simp only [Action.outcome_ofExcept]
    cases Listing.read text with
    | error e => rfl
    | ok volumes => cases hfind : volumes.find? (·.name = VolumeName.strip name) <;> simp only [hfind] <;> rfl

theorem create_starts (m : Machine ω) (name : String) (parameters secrets : Dictionary)
    (h : Host (List Machine.Started × ω)) :
    let done := (create s m.recording name parameters secrets).outcome h
    ∃ started, done.2.outside.1 = h.outside.1 ++ started ∧
      (started = [] → ∃ e, done.1 = .error e) ∧
      ∀ first ∈ started.head?, Session.Reads (Command.create name parameters) first := by
  simp only [create, Action.outcome_bind]
  rcases Session.run_started s m secrets (Command.create name parameters) h with
    ⟨hnone, e, he⟩ | ⟨first, hfirst, hreads⟩
  · generalize (Session.run s m.recording secrets (Command.create name parameters)).outcome h = done
      at hnone he ⊢
    obtain ⟨answer, h'⟩ := done
    cases he
    exact ⟨[], by simpa using hnone, fun _ ↦ ⟨e, rfl⟩, fun first hfirst ↦ nomatch hfirst⟩
  · have hhead (rest : List Machine.Started) {failed : Prop} : (first :: rest = [] → failed) ∧
        ∀ one ∈ (first :: rest).head?, Session.Reads (Command.create name parameters) one :=
      ⟨fun hnil ↦ absurd hnil (List.cons_ne_nil first rest),
        fun one hone ↦ Option.some.inj hone ▸ hreads⟩
    generalize (Session.run s m.recording secrets (Command.create name parameters)).outcome h = done
      at hfirst ⊢
    obtain ⟨e | text, h'⟩ := done
    · exact ⟨[first], hfirst, hhead []⟩
    · simp only [lookup_state]
      rcases Session.run_started s m secrets (Command.lookup name) h' with
        ⟨hnone, -⟩ | ⟨second, hsecond, -⟩
      · exact ⟨[first], hnone.trans hfirst, hhead []⟩
      · refine ⟨[first, second], ?_, hhead [second]⟩
        rw [hsecond, hfirst, List.append_assoc, List.singleton_append]

/-- A line is read by a shell as the words that it was made of, and in particular a creation as its
command: a path, and behind it each option that a parameter of this driver is given for, once and with
that parameter's text. A creation that does not get so far as to hand it over fails. -/
theorem shell_reads_creation :
    (∀ words : List String, (∀ w ∈ words, Text.NulFree w) →
      Shell.words? (Shell.line words) = some words) ∧
    ∀ (m : Machine ω) (name : String) (parameters secrets : Dictionary)
      (h : Host (List Machine.Started × ω)),
      let done := (create s m.recording name parameters secrets).outcome h
      ∃ pairs : List (String × String),
        Command.create name parameters = "volume" :: "create" :: VolumeName.path name ::
          pairs.flatMap (fun p ↦ [p.1, p.2]) ∧
        (pairs.map Prod.fst).Sublist Command.options ∧
        (∀ option value, (option, value) ∈ pairs ↔
          option ∈ Command.options ∧ parameters[driverKey option]? = some value) ∧
        ∃ started, done.2.outside.1 = h.outside.1 ++ started ∧
          (started = [] → ∃ e, done.1 = .error e) ∧
          ∀ first ∈ started.head?, ∃ line, first.1.arguments.getLast? = some line ∧
            Shell.words? line = some (Command.create name parameters) := by
  refine ⟨fun words hwords ↦ Shell.words?_line hwords, fun m name parameters secrets h ↦ ?_⟩
  exact ⟨Command.chosen parameters, Command.create_eq name parameters,
    Command.chosen_sublist parameters, Command.mem_chosen parameters,
    create_starts s m name parameters secrets h⟩

def fresh : Host (List Machine.Started × Script) where
  files := workstation.files
  outside := ([], workstation.outside)

def described : Dictionary := Dictionary.ofList [(driverKey "description", "it's; rm -rf /")]

theorem shell_reads_creation_of_quotes :
    (∀ w ∈ ["description", "it's; rm -rf /", ""], Text.NulFree w) ∧
      Shell.words? (Shell.line ["description", "it's; rm -rf /", ""]) =
        some ["description", "it's; rm -rf /", ""] ∧
      ∃ first rest line, ((create ⟨30, none, "/tmp"⟩ Script.machine.recording "a'$(id)" described
          Validation.adminSecrets).outcome fresh).2.outside.1 = first :: rest ∧
        first.1.arguments.getLast? = some line ∧
        Shell.words? line = some ["volume", "create", "/a'$(id)", "description", "it's; rm -rf /"] := by
  obtain ⟨hwords, hcreate⟩ := shell_reads_creation (ω := Script) ⟨30, none, "/tmp"⟩
  have hclean : ∀ w ∈ ["description", "it's; rm -rf /", ""], Text.NulFree w := by decide
  refine ⟨hclean, hwords _ hclean, ?_⟩
  obtain ⟨-, -, -, -, started, hstarted, -, hfirst⟩ :=
    hcreate Script.machine "a'$(id)" described Validation.adminSecrets fresh
  have hsome : started.length = 2 := by
    rw [← List.nil_append started]
    exact (congrArg List.length hstarted.symm).trans (by decide +kernel)
  match started, hsome with
  | first :: rest, _ =>
    obtain ⟨line, hline, hread⟩ := hfirst first rfl
    have hcommand : Command.create "a'$(id)" described =
        ["volume", "create", "/a'$(id)", "description", "it's; rm -rf /"] := by decide +kernel
    exact ⟨first, rest, line, hstarted, hline, hcommand ▸ hread⟩

end Remote

end RealmDriver
