import Blueprint.CommandLine.Request

/-
  How arguments ask for a command: which of them take part,
  and what the flags among them say.

  Main definitions:
    * `Scan.Runs`
    * `flagWords`
    * `plainArguments`

  Main statements:
    * `Scan.runs_of_read`, `Scan.Runs.read_eq`
    * `flags_of_ofArguments`
    * `same_of_plainArguments_eq`
-/

------------------------------------------------------------
-- Arguments Taken One by One
------------------------------------------------------------

namespace Blueprint

namespace Scan

/-
  The remaining arguments ask to run an invocation: each of
  them is a flag, with its format behind it or joined to it,
  or stands for itself, as all do after `--`.
-/
inductive Runs (i : Invocation) : Scan → List String → Prop
| ends
    {s : Scan}
    (h : s.finish = .ok (.run i)) :
    Runs i s []
| rest
    {s : Scan}
    {rest : List String}
    (h : s.readRest rest = .ok (.run i)) :
    Runs i s ("--" :: rest)
| quiet
    {s next : Scan}
    {rest : List String}
    (h : s.setQuiet = .ok next)
    (hRest : Runs i next rest) :
    Runs i s ("--quiet" :: rest)
| strict
    {s next : Scan}
    {rest : List String}
    (h : s.setStrict = .ok next)
    (hRest : Runs i next rest) :
    Runs i s ("--strict" :: rest)
| format
    {s next : Scan}
    {word : String}
    {rest : List String}
    (h : s.setFormat word = .ok next)
    (hRest : Runs i next rest) :
    Runs i s ("--output" :: word :: rest)
| joined
    {s next : Scan}
    {flag : String}
    {rest : List String}
    (hFlag : flag.startsWith "--output=" = true)
    (h : s.setFormat (flag.drop 9).toString = .ok next)
    (hRest : Runs i next rest) :
    Runs i s (flag :: rest)
| plain
    {s next : Scan}
    {argument : String}
    {rest : List String}
    (hPlain : (argument.startsWith "-" && argument != "-") =
      false)
    (h : s.readPlain argument = .ok next)
    (hRest : Runs i next rest) :
    Runs i s (argument :: rest)

variable {i : Invocation}

/-
  A flag that is read sets something, or it asks for help or
  for the version.
-/
theorem readFlag_eq_ok
    {s : Scan}
    {flag : String}
    {step : Step}
    (h : s.readFlag flag = .ok step) :
    (∃ next, step = .more next ∧
      ((flag = "--quiet" ∧ s.setQuiet = .ok next) ∨
        (flag = "--strict" ∧ s.setStrict = .ok next) ∨
        (flag.startsWith "--output=" = true ∧
          s.setFormat (flag.drop 9).toString = .ok next))) ∨
      step = .done .help ∨ step = .done .version := by
  have hMore {e : Except Misuse Scan}
      (hMap : e.map Step.more = .ok step) :
      ∃ next, step = .more next ∧ e = .ok next := by
    cases e with
    | error misuse => cases hMap
    | ok next =>
        cases hMap
        exact ⟨next, rfl, rfl⟩
  unfold readFlag at h
  split at h
  · rename_i hQuiet
    obtain ⟨next, hStep, hSet⟩ := hMore h
    exact .inl ⟨next, hStep, .inl ⟨hQuiet, hSet⟩⟩
  split at h
  · rename_i hStrict
    obtain ⟨next, hStep, hSet⟩ := hMore h
    exact .inl ⟨next, hStep, .inr (.inl ⟨hStrict, hSet⟩)⟩
  split at h
  · rename_i hJoined
    obtain ⟨next, hStep, hSet⟩ := hMore h
    exact .inl ⟨next, hStep, .inr (.inr ⟨hJoined, hSet⟩)⟩
  split at h
  · cases h
    exact .inr (.inl rfl)
  split at h
  · unfold askVersion at h
    split at h
    · cases h
      exact .inr (.inr rfl)
    · cases h
  · cases h

/- Arguments that are read as a run take part one by one. -/
theorem runs_of_read
    {s : Scan}
    {arguments : List String}
    (h : s.read arguments = .ok (.run i)) :
    Runs i s arguments := by
  fun_induction Scan.read s arguments with
  | case1 s => exact .ends h
  | case4 s word rest next hFormat ih =>
      exact .format hFormat (ih h)
  | case5 => exact .rest h
  | case7 s flag rest _ _ _ _ request hFlag =>
      cases h
      rcases readFlag_eq_ok hFlag with
        ⟨_, hStep, _⟩ | hStep | hStep <;> cases hStep
  | case8 s flag rest _ _ _ _ next hFlag ih =>
      rcases readFlag_eq_ok hFlag with
        ⟨_, hStep, hSet⟩ | hStep | hStep <;> cases hStep
      rcases hSet with
        ⟨rfl, hQuiet⟩ | ⟨rfl, hStrict⟩ | ⟨hJoined, hFormat⟩
      · exact .quiet hQuiet (ih h)
      · exact .strict hStrict (ih h)
      · exact .joined hJoined hFormat (ih h)
  | case12 s argument rest _ _ _ hFlag _ next hPlain ih =>
      exact .plain (by simpa using hFlag) hPlain (ih h)
  | _ => cases h

/-
  An argument that is none of the words `--`, `--output`,
  `--quiet` and `--strict`.
-/
structure IsOrdinary (argument : String) : Prop where
  rest : argument ≠ "--"
  output : argument ≠ "--output"
  quiet : argument ≠ "--quiet"
  strict : argument ≠ "--strict"

/- A flag that a format is joined to is another word. -/
theorem isOrdinary_of_startsWith
    {flag : String}
    (h : flag.startsWith "--output=" = true) :
    IsOrdinary flag := by
  constructor <;> (rintro rfl; simp at h)

/- What does not start as flags do is another word. -/
theorem isOrdinary_of_plain
    {argument : String}
    (h : (argument.startsWith "-" && argument != "-") =
      false) :
    IsOrdinary argument := by
  constructor <;> (rintro rfl; simp at h)

/- A flag that a format is joined to starts as flags do. -/
theorem isFlag_of_startsWith
    {flag : String}
    (h : flag.startsWith "--output=" = true) :
    (flag.startsWith "-" && flag != "-") = true := by
  have hOther : flag ≠ "-" := by
    rintro rfl
    simp at h
  rw [String.startsWith_string_iff] at h
  have hDash : "-".toList <+: "--output=".toList := by decide
  have hStart :=
    String.startsWith_string_iff.mpr (hDash.trans h)
  simp only [hStart, Bool.true_and, bne_iff_ne]
  exact hOther

/- An argument that is not `--output` is read by its start. -/
theorem read_cons
    (s : Scan)
    {argument : String}
    (rest : List String)
    (hOther : argument ≠ "--output") :
    s.read (argument :: rest) =
      if argument = "--" then
        s.readRest rest
      else if argument.startsWith "-" && argument != "-" then
        match s.readFlag argument with
        | .error misuse => .error misuse
        | .ok (.done request) => .ok request
        | .ok (.more next) => next.read rest
      else if s.command.isNone && argument = "help" then
        if isHelpTopic rest then
          .ok .help
        else
          .error (.unexpected argument)
      else
        match s.readPlain argument with
        | .error misuse => .error misuse
        | .ok next => next.read rest := by
  apply read.eq_4
  · exact fun hFlag _ => hOther hFlag
  · exact fun _ _ hFlag _ => hOther hFlag

/- Arguments that take part one by one are read as a run. -/
theorem Runs.read_eq
    {s : Scan}
    {arguments : List String}
    (h : Runs i s arguments) :
    s.read arguments = .ok (.run i) := by
  induction h with
  | ends h => exact h
  | rest h =>
      rw [read_cons _ _ (by decide), if_pos rfl]
      exact h
  | quiet h _ ih =>
      rw [read_cons _ _ (by decide)]
      simp [readFlag, h, ih, Except.map]
  | strict h _ ih =>
      rw [read_cons _ _ (by decide)]
      simp [readFlag, h, ih, Except.map]
  | @format s next word rest h _ ih =>
      simp [read, h, ih]
  | @joined s next flag rest hJoined h _ ih =>
      have hOther := isOrdinary_of_startsWith hJoined
      rw [read_cons _ _ hOther.output, if_neg hOther.rest,
        if_pos (isFlag_of_startsWith hJoined)]
      simp only [readFlag, hOther.quiet, hOther.strict, hJoined,
        if_true, if_false, h, Except.map]
      exact ih
  | @plain s next argument rest hPlain h _ ih =>
      have hOther := isOrdinary_of_plain hPlain
      -- Before a command the word help would be answered at
      -- once, but then no command would have been read.
      have hHelp : ¬(s.command.isNone && argument = "help") =
          true := by
        intro hHelp
        simp only [Bool.and_eq_true, Option.isNone_iff_eq_none,
          decide_eq_true_eq] at hHelp
        simp [readPlain, hHelp] at h
      rw [read_cons _ _ hOther.output, if_neg hOther.rest,
        if_neg (by rw [hPlain]; exact Bool.false_ne_true),
        if_neg hHelp, h]
      exact ih

end Scan

end Blueprint

------------------------------------------------------------
-- Flags among the Arguments
------------------------------------------------------------

namespace Blueprint

/- A check that a flag makes strict. -/
def Command.isStrict : Command → Bool
| .check strict => strict
| .parse => false

/- The arguments among which flags are looked for. -/
def flagWords (arguments : List String) : List String :=
  arguments.takeWhile (· != "--")

theorem flagWords_cons
    {argument : String}
    (rest : List String)
    (h : argument ≠ "--") :
    flagWords (argument :: rest) =
      argument :: flagWords rest := by
  simp [flagWords, h]

namespace Scan

/- The flag `--strict` was read. -/
def isStrict (s : Scan) : Bool :=
  s.command.any Command.isStrict

/- The flag `--quiet` was read. -/
def isQuiet (s : Scan) : Bool :=
  s.inner.quiet || s.outer.quiet

/- The scan without its flags. -/
def plain (s : Scan) : Scan :=
  { s with outer := ⟨none, false⟩, inner := ⟨none, false⟩ }

/- Two scans know of the same flags, but for the format. -/
structure SameFlags (s next : Scan) : Prop where
  strict : next.isStrict = s.isStrict
  quiet : next.isQuiet = s.isQuiet

theorem SameFlags.trans
    {first second third : Scan}
    (h : SameFlags first second)
    (hNext : SameFlags second third) :
    SameFlags first third :=
  ⟨hNext.strict.trans h.strict, hNext.quiet.trans h.quiet⟩

@[simp]
theorem plain_command (s : Scan) : s.plain.command = s.command :=
  rfl

@[simp]
theorem plain_file (s : Scan) : s.plain.file = s.file :=
  rfl

variable {s next : Scan}

theorem isStrict_eq_of_plain_eq (h : next.plain = s.plain) :
    next.isStrict = s.isStrict := by
  change next.plain.isStrict = s.plain.isStrict
  rw [h]

/- Setting `--quiet` changes nothing else. -/
theorem setQuiet_eq_ok (h : s.setQuiet = .ok next) :
    next.plain = s.plain ∧ next.isQuiet = true := by
  unfold setQuiet at h
  split at h
  · cases h
  · cases h
    unfold withFlags
    split <;> simp [plain, isQuiet]

/- Setting a format changes nothing else. -/
theorem setFormat_eq_ok
    {word : String}
    (h : s.setFormat word = .ok next) :
    next.plain = s.plain ∧ next.isQuiet = s.isQuiet ∧
      (word = "text" ∨ word = "json") := by
  unfold setFormat at h
  split at h
  · cases h
  · rename_i format hWord
    split at h
    · cases h
    · cases h
      have hName : word = "text" ∨ word = "json" := by
        unfold Format.ofWord? at hWord
        split at hWord
        · exact .inl rfl
        · exact .inr rfl
        · cases hWord
      refine ⟨?_, ?_, hName⟩
      · unfold withFlags
        split <;> rfl
      · unfold withFlags isQuiet flags
        split <;> simp [*]

/- Setting `--strict` changes nothing else. -/
theorem setStrict_eq_ok (h : s.setStrict = .ok next) :
    s.plain.setStrict = .ok next.plain ∧
      next.isStrict = true ∧ next.isQuiet = s.isQuiet := by
  unfold setStrict at h
  split at h
  · rename_i hCommand
    cases h
    refine ⟨?_, rfl, rfl⟩
    simp [setStrict, plain, hCommand]
  · cases h
  · cases h

/- The path of the document is no flag. -/
theorem setFile_eq_ok
    {path : String}
    (h : s.setFile path = .ok next) :
    s.plain.setFile path = .ok next.plain ∧
      SameFlags s next := by
  unfold setFile at h
  split at h
  · cases h
  · rename_i hFile
    split at h
    · cases h
    · rename_i hPath
      cases h
      refine ⟨?_, ⟨rfl, rfl⟩⟩
      rw [setFile, plain_file, if_neg hFile, if_neg hPath]
      rfl

/- An argument that stands for itself is no flag. -/
theorem readPlain_eq_ok
    {argument : String}
    (h : s.readPlain argument = .ok next) :
    s.plain.readPlain argument = .ok next.plain ∧
      SameFlags s next := by
  unfold readPlain at h
  split at h
  · rename_i command hCommand
    obtain ⟨hFile, hFlags⟩ := setFile_eq_ok h
    refine ⟨?_, hFlags⟩
    unfold readPlain
    rw [plain_command, hCommand]
    exact hFile
  · rename_i hCommand
    cases h
    have hStrict : s.isStrict = false := by
      simp [isStrict, hCommand]
    refine ⟨?_, ⟨hStrict.symm, rfl⟩⟩
    unfold readPlain
    rw [plain_command, hCommand]
    rfl
  · rename_i hCommand
    cases h
    have hStrict : s.isStrict = false := by
      simp [isStrict, hCommand]
    refine ⟨?_, ⟨hStrict.symm, rfl⟩⟩
    unfold readPlain
    rw [plain_command, hCommand]
    rfl
  · cases h

end Scan

/- The invocation without format and silence. -/
def Invocation.plain (i : Invocation) : Invocation :=
  { i with format := none, quiet := false }

namespace Scan

variable {s next : Scan}
variable {i : Invocation}

/- The request takes over what the scan knows. -/
theorem finish_eq_ok (h : s.finish = .ok (.run i)) :
    s.plain.finish = .ok (.run i.plain) ∧
      i.command.isStrict = s.isStrict ∧
      i.quiet = s.isQuiet := by
  unfold finish at h
  split at h
  · cases h
  · cases h
  · rename_i command file hCommand hFile
    cases h
    refine ⟨?_, by simp [isStrict, hCommand], rfl⟩
    simp [finish, plain, hCommand, hFile, Invocation.plain]

/- Paths are no flags. -/
theorem foldlM_setFile_eq_ok
    {paths : List String}
    (h : paths.foldlM setFile s = .ok next) :
    paths.foldlM setFile s.plain = .ok next.plain ∧
      SameFlags s next := by
  induction paths generalizing s with
  | nil =>
      cases h
      exact ⟨rfl, ⟨rfl, rfl⟩⟩
  | cons path paths ih =>
      rw [List.foldlM_cons] at h ⊢
      cases hFile : s.setFile path with
      | error misuse =>
          rw [hFile] at h
          cases h
      | ok first =>
          rw [hFile] at h
          obtain ⟨hPlain, hFlags⟩ := setFile_eq_ok hFile
          obtain ⟨hRest, hMore⟩ := ih h
          rw [hPlain]
          exact ⟨hRest, hFlags.trans hMore⟩

/- The arguments after `--` are no flags. -/
theorem readRest_eq_ok
    {rest : List String}
    (h : s.readRest rest = .ok (.run i)) :
    s.plain.readRest rest = .ok (.run i.plain) ∧
      i.command.isStrict = s.isStrict ∧
      i.quiet = s.isQuiet := by
  unfold readRest at h
  split at h
  · cases h
  · rename_i hCommand
    cases hLast : rest.foldlM setFile s with
    | error misuse =>
        rw [hLast] at h
        cases h
    | ok last =>
        rw [hLast] at h
        obtain ⟨hPlain, hFlags⟩ := foldlM_setFile_eq_ok hLast
        obtain ⟨hFinish, hStrict, hQuiet⟩ := finish_eq_ok h
        refine ⟨?_, hStrict.trans hFlags.strict,
          hQuiet.trans hFlags.quiet⟩
        rw [readRest, plain_command, if_neg hCommand, hPlain]
        exact hFinish

/- A request to run knows the flags among the arguments. -/
theorem Runs.flags
    {arguments : List String}
    (h : Runs i s arguments) :
    i.command.isStrict =
        (s.isStrict ||
          (flagWords arguments).contains "--strict") ∧
      i.quiet =
        (s.isQuiet ||
          (flagWords arguments).contains "--quiet") := by
  induction h with
  | ends h =>
      obtain ⟨_, hStrict, hQuiet⟩ := finish_eq_ok h
      simp [flagWords, hStrict, hQuiet]
  | rest h =>
      obtain ⟨_, hStrict, hQuiet⟩ := readRest_eq_ok h
      simp [flagWords, hStrict, hQuiet]
  | quiet h _ ih =>
      obtain ⟨hPlain, hQuiet⟩ := setQuiet_eq_ok h
      rw [flagWords_cons _ (by decide), ih.1, ih.2, hQuiet,
        isStrict_eq_of_plain_eq hPlain]
      simp
  | strict h _ ih =>
      obtain ⟨_, hStrict, hQuiet⟩ := setStrict_eq_ok h
      rw [flagWords_cons _ (by decide), ih.1, ih.2, hStrict,
        hQuiet]
      simp
  | @format s next word rest h _ ih =>
      obtain ⟨hPlain, hQuiet, hWord⟩ := setFormat_eq_ok h
      rw [flagWords_cons _ (by decide), ih.1, ih.2, hQuiet,
        isStrict_eq_of_plain_eq hPlain]
      rcases hWord with rfl | rfl <;>
        (rw [flagWords_cons _ (by decide)]; simp)
  | @joined s next flag rest hJoined h _ ih =>
      obtain ⟨hPlain, hQuiet, _⟩ := setFormat_eq_ok h
      have hOther := isOrdinary_of_startsWith hJoined
      rw [flagWords_cons _ hOther.rest, ih.1, ih.2, hQuiet,
        isStrict_eq_of_plain_eq hPlain]
      simp [hOther.strict.symm, hOther.quiet.symm]
  | @plain s next argument rest hPlain h _ ih =>
      obtain ⟨_, hFlags⟩ := readPlain_eq_ok h
      have hOther := isOrdinary_of_plain hPlain
      rw [flagWords_cons _ hOther.rest, ih.1, ih.2,
        hFlags.strict, hFlags.quiet]
      simp [hOther.strict.symm, hOther.quiet.symm]

end Scan

/- The flags of a request are those among the arguments. -/
theorem flags_of_ofArguments
    {arguments : List String}
    {i : Invocation}
    (h : Request.ofArguments arguments = .ok (.run i)) :
    i.command.isStrict =
        (flagWords arguments).contains "--strict" ∧
      i.quiet = (flagWords arguments).contains "--quiet" :=
  (Scan.runs_of_read h).flags

end Blueprint

------------------------------------------------------------
-- Arguments without Format and Silence
------------------------------------------------------------

namespace Blueprint

/-
  The arguments without the flags `--quiet` and `--output`,
  the format of the latter included. After `--` there are no
  flags.
-/
def plainArguments : List String → List String
| [] => []
| "--output" :: _ :: rest => plainArguments rest
| argument :: rest =>
    if argument = "--" then
      argument :: rest
    else if argument = "--quiet" ||
        argument.startsWith "--output=" then
      plainArguments rest
    else
      argument :: plainArguments rest

/- Any other argument stays or goes by itself. -/
theorem plainArguments_cons
    {argument : String}
    (rest : List String)
    (hOther : argument ≠ "--output") :
    plainArguments (argument :: rest) =
      if argument = "--" then
        argument :: rest
      else if argument = "--quiet" ||
          argument.startsWith "--output=" then
        plainArguments rest
      else
        argument :: plainArguments rest := by
  apply plainArguments.eq_3
  exact fun _ _ hFlag _ => hOther hFlag

/- Without the two flags the same command is asked for. -/
theorem Scan.Runs.plain_arguments
    {s : Scan}
    {i : Invocation}
    {arguments : List String}
    (h : Runs i s arguments) :
    Runs i.plain s.plain (plainArguments arguments) := by
  induction h with
  | ends h => exact .ends (finish_eq_ok h).1
  | rest h => exact .rest (readRest_eq_ok h).1
  | quiet h _ ih =>
      rw [← (setQuiet_eq_ok h).1,
        plainArguments_cons _ (by decide)]
      exact ih
  | strict h _ ih =>
      rw [plainArguments_cons _ (by decide), if_neg (by decide),
        if_neg (by simp)]
      exact .strict (setStrict_eq_ok h).1 ih
  | @format s next word rest h _ ih =>
      rw [← (setFormat_eq_ok h).1, plainArguments]
      exact ih
  | @joined s next flag rest hJoined h _ ih =>
      have hOther := isOrdinary_of_startsWith hJoined
      rw [← (setFormat_eq_ok h).1,
        plainArguments_cons _ hOther.output,
        if_neg hOther.rest,
        if_pos (by rw [hJoined, Bool.or_true])]
      exact ih
  | @plain s next argument rest hPlain h _ ih =>
      have hOther := isOrdinary_of_plain hPlain
      have hJoined :
          argument.startsWith "--output=" = false := by
        rw [Bool.eq_false_iff]
        intro hStart
        rw [isFlag_of_startsWith hStart] at hPlain
        cases hPlain
      rw [plainArguments_cons _ hOther.output,
        if_neg hOther.rest,
        if_neg (by simp [hOther.quiet, hJoined])]
      exact .plain hPlain (readPlain_eq_ok h).1 ih

/- Without the two flags the same command is asked for. -/
theorem ofArguments_plainArguments
    {i : Invocation}
    {arguments : List String}
    (h : Request.ofArguments arguments = .ok (.run i)) :
    Request.ofArguments (plainArguments arguments) =
      .ok (.run i.plain) :=
  (Scan.runs_of_read h).plain_arguments.read_eq

/-
  Arguments that differ in the two flags only ask for the
  same command and the same document.
-/
theorem same_of_plainArguments_eq
    {i j : Invocation}
    {arguments others : List String}
    (hRun : Request.ofArguments arguments = .ok (.run i))
    (hOther : Request.ofArguments others = .ok (.run j))
    (hSame : plainArguments arguments = plainArguments others) :
    i.command = j.command ∧ i.file = j.file := by
  have hLeft := ofArguments_plainArguments hRun
  have hRight := ofArguments_plainArguments hOther
  rw [hSame, hRight] at hLeft
  have hPlain : j.plain = i.plain :=
    Request.run.inj (Except.ok.inj hLeft)
  have hParts := Invocation.mk.inj hPlain
  exact ⟨hParts.1.symm, hParts.2.1.symm⟩

end Blueprint
