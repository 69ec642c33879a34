import Mathlib.Data.List.Forall2
import Mathlib.Data.List.TakeWhile
import StudioLookup.CommandLine.Arguments

set_option autoImplicit false

/-! # Options in any order and spelling

The options of an update can be written as arguments in many ways: most parts of a choice of options
have several spellings (`Spelling`), and the parts may stand in any order (`Choice.IsWrittenAs`).
`parse_of_isWrittenAs` says that all these ways are read as one and the same.

The reader is not followed through its states, in which a value may still wait to be examined, but
through what they settle to. When some parts of a choice have been read, that is `Choice.after`,
which depends on the parts and not on their order or spelling. Reading one more part leads to
`Choice.after` of one more part (`readArguments_spelling`).
-/

namespace StudioLookup.CommandLine

/-! ## Choices and how they are written -/

/-- A choice of options: what an update is wanted to be told. -/
structure Choice where
  version : Text
  archiveUrl : Option Text
  toolDirectory : Option Text
  output : Option Text
  /-- How long an answer is waited for, in seconds. -/
  timeout : Option Nat
  dryRun : Bool
  toolDirectory_ne_empty : toolDirectory ≠ some []
  output_ne_empty : output ≠ some []
  timeout_lt_bound : ∀ n ∈ timeout, n < timeoutBound

/-- A part of a choice. -/
inductive Part where
  | version
  | setting (o : Setting)
  | dryRun
  deriving DecidableEq, Repr

/-- All the parts a choice can have. -/
def Part.all : List Part :=
  [.version, .setting .archiveUrl, .setting .toolDirectory, .setting .output, .setting .timeout,
    .dryRun]

namespace Choice

/-- The value of an option, as it is written. -/
def value? (w : Choice) : Setting → Option Text
  | .archiveUrl => w.archiveUrl
  | .toolDirectory => w.toolDirectory
  | .output => w.output
  | .timeout => w.timeout.map Text.decimal

/-- Whether a part is there. The version always is. -/
def has (w : Choice) : Part → Bool
  | .version => true
  | .setting o => (w.value? o).isSome
  | .dryRun => w.dryRun

/-- The parts of a choice. -/
def parts (w : Choice) : List Part := Part.all.filter w.has

end Choice

/-- A text that is no option: it begins with a hyphen only if it is nothing else. -/
def IsPlain (t : Text) : Prop := t.head? = some '-' → t = ['-']

instance (t : Text) : Decidable (IsPlain t) := inferInstanceAs (Decidable (_ → _))

/-- The ways to write a part of a choice. -/
inductive Spelling (w : Choice) : Part → List Text → Prop where
  | version :
      IsPlain w.version →
      Spelling w .version [w.version]
  /-- The value is an argument of its own. -/
  | apart {o : Setting} {v : Text} :
      w.value? o = some v →
      IsPlain v →
      Spelling w (.setting o) ["--".toList ++ o.name, v]
  /-- The value stands behind an equals sign. -/
  | joined {o : Setting} {v : Text} :
      w.value? o = some v →
      Spelling w (.setting o) ["--".toList ++ o.name ++ '=' :: v]
  /-- The output has a short name. -/
  | short {v : Text} :
      w.value? .output = some v →
      IsPlain v →
      Spelling w (.setting .output) ["-o".toList, v]
  | dryRun :
      w.dryRun = true →
      Spelling w .dryRun ["--dry-run".toList]

/-- The arguments write each part of the choice once, in some order and in some spelling. -/
def Choice.IsWrittenAs (w : Choice) (args : List Text) : Prop :=
  ∃ order groups,
    order.Perm w.parts ∧ List.Forall₂ (Spelling w) order groups ∧ args = groups.flatten

namespace Choice

theorem mem_parts_iff (w : Choice) (p : Part) : p ∈ w.parts ↔ w.has p = true := by
  have hall : p ∈ Part.all := by
    cases p with
    | version => decide
    | setting o => cases o <;> decide
    | dryRun => decide
  simp [parts, hall]

theorem nodup_parts (w : Choice) : w.parts.Nodup := by
  have hall : Part.all.Nodup := by decide
  exact hall.filter _

/-- Every choice can be written, since any value may stand behind an equals sign. -/
theorem exists_isWrittenAs {w : Choice} (h : IsPlain w.version) : ∃ args, w.IsWrittenAs args := by
  have hspelling : ∀ p ∈ w.parts, ∃ group, Spelling w p group := by
    intro p hp
    rw [mem_parts_iff] at hp
    cases p with
    | version => exact ⟨_, .version h⟩
    | setting o =>
        obtain ⟨v, hv⟩ := Option.isSome_iff_exists.mp hp
        exact ⟨_, .joined hv⟩
    | dryRun => exact ⟨_, .dryRun hp⟩
  obtain ⟨groups, hgroups⟩ : ∃ groups, List.Forall₂ (Spelling w) w.parts groups := by
    generalize w.parts = order at hspelling
    induction order with
    | nil => exact ⟨[], .nil⟩
    | cons p order ih =>
        obtain ⟨group, hgroup⟩ := hspelling p List.mem_cons_self
        obtain ⟨groups, hgroups⟩ := ih fun q hq => hspelling q (List.mem_cons_of_mem p hq)
        exact ⟨group :: groups, .cons hgroup hgroups⟩
  exact ⟨groups.flatten, w.parts, groups, .refl _, hgroups, rfl⟩

end Choice

/-! ## What has been read -/

namespace Choice

/-- What is given when some parts of a choice have been read. -/
def after (w : Choice) (read : List Part) : Given where
  version := if .version ∈ read then some w.version else none
  archiveUrl := if .setting .archiveUrl ∈ read then w.archiveUrl else none
  toolDirectory := if .setting .toolDirectory ∈ read then w.toolDirectory else none
  output := if .setting .output ∈ read then w.output else none
  timeout := if .setting .timeout ∈ read then w.timeout else none
  dryRun := decide (.dryRun ∈ read)

/-- A choice as what is given by it. -/
def given (w : Choice) : Given :=
  ⟨some w.version, w.archiveUrl, w.toolDirectory, w.output, w.timeout, w.dryRun⟩

theorem after_nil (w : Choice) : w.after [] = .nothing := rfl

/-- All the parts together are the choice, in whatever order they have been read. -/
theorem after_eq_given {w : Choice} {read : List Part} (h : ∀ p, p ∈ read ↔ w.has p = true) :
    w.after read = w.given := by
  simp only [after, given, h, has, value?, Option.isSome_map, if_true, Bool.decide_eq_true]
  have hif {α : Type} (o : Option α) : (if o.isSome = true then o else none) = o := by
    cases o <;> rfl
  rw [hif, hif, hif, hif]

end Choice

/-! ## Seconds -/

theorem digitValue?_of_isDigit {c : Char} (h : c.isDigit = true) :
    Text.digitValue? 10 c = some (c.toNat - '0'.toNat) := by
  obtain ⟨hzero, hnine⟩ := Char.isDigit_iff_toNat.mp h
  have hrange : '0' ≤ c ∧ c ≤ '9' := ⟨hzero, hnine⟩
  have hlt : c.toNat - '0'.toNat < 10 :=
    Nat.lt_of_le_of_lt (Nat.sub_le_sub_right hnine _) (by decide)
  simp only [Text.digitValue?, if_pos hrange, Option.filter_some, decide_eq_true_eq, if_pos hlt]

/-- A number is not smaller than what its first digits stand for. -/
theorem le_ofDigitChars (read : Nat) (t : Text) : read ≤ Nat.ofDigitChars 10 t read := by
  rw [Nat.ofDigitChars_eq_ofDigitChars_zero]
  exact Nat.le_add_right_of_le (Nat.le_mul_of_pos_left _ (Nat.pow_pos (by decide)))

theorem readSeconds_eq {t : Text} (hdigits : ∀ c ∈ t, c.isDigit = true) {read : Nat}
    (hbound : Nat.ofDigitChars 10 t read < timeoutBound) :
    readSeconds read t = .ok (Nat.ofDigitChars 10 t read) := by
  induction t generalizing read with
  | nil => rfl
  | cons c t ih =>
      rw [List.forall_mem_cons] at hdigits
      rw [Nat.ofDigitChars_cons, Nat.mul_comm] at hbound ⊢
      have hread := Nat.lt_of_le_of_lt (le_ofDigitChars _ t) hbound
      simp only [readSeconds, digitValue?_of_isDigit hdigits.1, if_pos hread]
      exact ih hdigits.2 hbound

/-- A number of seconds in decimal digits is read back. -/
theorem seconds?_decimal {n : Nat} (h : n < timeoutBound) : seconds? (Text.decimal n) = .ok n := by
  have hdigits : ∀ c ∈ Text.decimal n, c.isDigit = true := fun c hc =>
    Nat.isDigit_of_mem_toDigits (by decide) (by decide) hc
  have hvalue : Nat.ofDigitChars 10 (Text.decimal n) 0 = n := Nat.ofDigitChars_ten_toDigits
  have hread : readSeconds 0 (Text.decimal n) = .ok n := by
    rw [readSeconds_eq hdigits (by rwa [hvalue]), hvalue]
  -- a number has a digit and no plus sign, so only the last case is left
  unfold seconds?
  split
  · next hnil => exact absurd hnil Nat.toDigits_ne_nil
  · next hplus => exact absurd (hdigits '+' (by simp [hplus])) (by decide)
  · next t hplus => exact absurd (hdigits '+' (by simp [hplus])) (by decide)
  · exact hread

/-! ## Options by their names -/

theorem ne_equals_of_not_mem {name : Text} (h : '=' ∉ name) : ∀ c ∈ name, (c != '=') = true := by
  intro c hc
  rw [bne_iff_ne]
  rintro rfl
  exact h hc

theorem splitEquals_of_not_mem {name : Text} (h : '=' ∉ name) :
    splitEquals name = (name, none) := by
  have hdrop : name.dropWhile (· != '=') = [] :=
    List.dropWhile_eq_nil_iff.mpr (ne_equals_of_not_mem h)
  rw [splitEquals, hdrop]

/-- A long option is cut at the first equals sign, so its value may have others. -/
theorem splitEquals_append {name : Text} (h : '=' ∉ name) (v : Text) :
    splitEquals (name ++ '=' :: v) = (name, some v) := by
  have hname := ne_equals_of_not_mem h
  have hdrop : (name ++ '=' :: v).dropWhile (· != '=') = '=' :: v := by
    rw [List.dropWhile_append_of_pos hname]
    rfl
  have htake : (name ++ '=' :: v).takeWhile (· != '=') = name := by
    rw [List.takeWhile_append_of_pos hname]
    exact List.append_nil name
  rw [splitEquals, hdrop, htake]

theorem Setting.ofName?_name (o : Setting) : Setting.ofName? o.name = some o := by
  cases o <;> rfl

theorem Setting.name_ne_nil (o : Setting) : o.name ≠ [] := by
  cases o <;> decide

theorem Setting.not_mem_name (o : Setting) : '=' ∉ o.name := by
  cases o <;> decide

/-! ## One argument -/

theorem IsPlain.ne_dashes {a : Text} (h : IsPlain a) : a ≠ "--".toList := by
  rintro rfl
  exact absurd (h rfl) (by decide)

theorem readArgument_of_isPlain {a : Text} (h : IsPlain a) (r : Reading) :
    readArgument r a = readPlain r a := by
  unfold readArgument
  split
  · exact absurd (h rfl) (by simp)
  · exact absurd (h rfl) (by simp)
  · rfl

theorem readArgument_name (r : Reading) (o : Setting) :
    readArgument r ("--".toList ++ o.name) = acceptSetting r o none := by
  change readLong r o.name = _
  simp only [readLong, splitEquals_of_not_mem o.not_mem_name, Setting.ofName?_name]

theorem readArgument_name_value (r : Reading) (o : Setting) (v : Text) :
    readArgument r ("--".toList ++ o.name ++ '=' :: v) = acceptSetting r o (some v) := by
  change readLong r (o.name ++ '=' :: v) = _
  simp only [readLong, splitEquals_append o.not_mem_name, Setting.ofName?_name]

theorem name_ne_dashes (o : Setting) : "--".toList ++ o.name ≠ "--".toList := by
  intro h
  exact o.name_ne_nil (List.append_right_eq_self.mp h)

theorem name_value_ne_dashes (o : Setting) (v : Text) :
    "--".toList ++ o.name ++ '=' :: v ≠ "--".toList := by
  intro h
  rw [List.append_assoc] at h
  exact o.name_ne_nil (List.append_eq_nil_iff.mp (List.append_right_eq_self.mp h)).1

theorem readArguments_cons {r r' : Reading} {a : Text} (hne : a ≠ "--".toList)
    (h : readArgument r a = .ok r') (rest : List Text) :
    readArguments r (a :: rest) = readArguments r' rest := by
  rw [readArguments, if_neg hne, h]

/-! ## One part -/

section

variable {w : Choice} {read : List Part} {r : Reading}

/-- No option touches the version. -/
theorem version_of_setOnce {g g' : Given} {o : Setting} {v : Text} (h : g.setOnce o v = .ok g') :
    g.version = g'.version := by
  unfold Given.setOnce Given.set at h
  grind

/-- The version is the same before what is pending is settled, which is when it is looked at. -/
theorem version_of_settle {g : Given} (h : settle r = .ok g) : r.given.version = g.version := by
  unfold settle at h
  split at h
  · cases h
    rfl
  · cases h
  · next o v hp =>
      cases hset : r.given.setOnce o v with
      | ok g' =>
          rw [hset] at h
          cases h
          exact version_of_setOnce hset
      | error e =>
          rw [hset] at h
          cases h

theorem readPlain_of_settle {g : Given} (h : settle r = .ok g) (a : Text) :
    readPlain r a = acceptVersion r a := by
  unfold readPlain
  split
  · next o hp =>
      rw [settle, hp] at h
      cases h
  · rfl

/-- The value of an option that was not read before. -/
theorem setOnce_after {o : Setting} {v : Text} (hv : w.value? o = some v)
    (hnew : .setting o ∉ read) :
    (w.after read).setOnce o v = .ok (w.after (.setting o :: read)) := by
  cases o with
  | archiveUrl =>
      have hv : w.archiveUrl = some v := hv
      simp [Given.setOnce, Given.has, Given.set, Choice.after, hnew, hv]
  | toolDirectory =>
      -- a path is refused only if it is empty
      have hv : w.toolDirectory = some v := hv
      have hne : v ≠ [] := by
        rintro rfl
        exact w.toolDirectory_ne_empty hv
      simp [Given.setOnce, Given.has, Given.set, Choice.after, hnew, hv, hne]
  | output =>
      have hv : w.output = some v := hv
      have hne : v ≠ [] := by
        rintro rfl
        exact w.output_ne_empty hv
      simp [Given.setOnce, Given.has, Given.set, Choice.after, hnew, hv, hne]
  | timeout =>
      obtain ⟨n, hn, rfl⟩ := Option.map_eq_some_iff.mp hv
      have hseconds := seconds?_decimal (w.timeout_lt_bound n hn)
      simp [Given.setOnce, Given.has, Given.set, Choice.after, hnew, hn, hseconds]

/-- An option without a value takes the next argument for it. It is examined later. -/
theorem readArguments_value {g : Given} {a v : Text} {o : Setting} (hne : a ≠ "--".toList)
    (ha : readArgument r a = acceptSetting r o none) (hv : IsPlain v) (hr : settle r = .ok g)
    (rest : List Text) :
    readArguments r (a :: v :: rest) = readArguments ⟨g, .unexamined o v⟩ rest := by
  have haccept : acceptSetting r o none = .ok ⟨g, .waiting o⟩ := by rw [acceptSetting, hr]
  rw [readArguments_cons hne (ha.trans haccept)]
  exact readArguments_cons hv.ne_dashes (readArgument_of_isPlain hv _) rest

/-- Reading a part, in any of its spellings, adds it to what has been read. -/
theorem readArguments_spelling {p : Part} {group : List Text} (h : Spelling w p group)
    (hnew : p ∉ read) (hr : settle r = .ok (w.after read)) (rest : List Text) :
    ∃ r', readArguments r (group ++ rest) = readArguments r' rest ∧
      settle r' = .ok (w.after (p :: read)) := by
  cases h with
  | version hplain =>
      have hversion : r.given.version = none := by
        rw [version_of_settle hr]
        exact if_neg hnew
      have hread : readArgument r w.version = .ok ⟨w.after (.version :: read), .nothing⟩ := by
        rw [readArgument_of_isPlain hplain, readPlain_of_settle hr, acceptVersion, hversion, hr]
        simp [Choice.after]
      exact ⟨_, readArguments_cons hplain.ne_dashes hread rest, rfl⟩
  | @apart o v hv hplain =>
      -- the value is not examined yet, but settling will find it good
      refine ⟨⟨w.after read, .unexamined o v⟩, ?_, congrArg stopAt (setOnce_after hv hnew)⟩
      exact readArguments_value (name_ne_dashes o) (readArgument_name r o) hplain hr rest
  | @joined o v hv =>
      refine ⟨⟨w.after (.setting o :: read), .nothing⟩, ?_, rfl⟩
      refine readArguments_cons (name_value_ne_dashes o v) ?_ rest
      simp only [readArgument_name_value, acceptSetting, hr, setOnce_after hv hnew]
      rfl
  | @short v hv hplain =>
      refine ⟨⟨w.after read, .unexamined .output v⟩, ?_, congrArg stopAt (setOnce_after hv hnew)⟩
      exact readArguments_value (by decide) rfl hplain hr rest
  | dryRun =>
      have hread : readArgument r "--dry-run".toList =
          .ok ⟨w.after (.dryRun :: read), .nothing⟩ := by
        change acceptSwitch r .dryRun true = _
        simp [acceptSwitch, hr, Choice.after, hnew]
      exact ⟨_, readArguments_cons (by decide) hread rest, rfl⟩

/-! ## All parts -/

/-- Reading some parts, each of them once, adds them to what has been read. -/
theorem readArguments_spellings {order : List Part} {groups : List (List Text)}
    (h : List.Forall₂ (Spelling w) order groups) (hnodup : (order ++ read).Nodup)
    (hr : settle r = .ok (w.after read)) :
    ∃ r', readArguments r groups.flatten = .ok r' ∧
      settle r' = .ok (w.after (order.reverse ++ read)) := by
  induction h generalizing read r with
  | nil => exact ⟨r, rfl, hr⟩
  | @cons p group order groups hp _ ih =>
      obtain ⟨hnew, -⟩ := List.nodup_cons.mp hnodup
      obtain ⟨r₁, hread, hr₁⟩ := readArguments_spelling hp
        (fun hmem => hnew (List.mem_append_right _ hmem)) hr groups.flatten
      -- `p` counts as read from here on, and the others are still new
      have hnodup₁ : (order ++ p :: read).Nodup := List.perm_middle.nodup_iff.mpr hnodup
      obtain ⟨r', hread', hr'⟩ := ih hnodup₁ hr₁
      refine ⟨r', hread.trans hread', ?_⟩
      rwa [List.reverse_cons, List.append_assoc]

/-- However a choice is written, it is what is given in the end. -/
theorem readArguments_of_isWrittenAs {args : List Text} (h : w.IsWrittenAs args) :
    ∃ r', readArguments ⟨.nothing, .nothing⟩ args = .ok r' ∧ settle r' = .ok w.given := by
  obtain ⟨order, groups, hperm, hgroups, rfl⟩ := h
  have hnodup : (order ++ []).Nodup := by
    rw [List.append_nil, hperm.nodup_iff]
    exact w.nodup_parts
  have hstart : settle ⟨.nothing, .nothing⟩ = .ok (w.after []) :=
    congrArg Except.ok w.after_nil.symm
  obtain ⟨r', hread, hr'⟩ := readArguments_spellings hgroups hnodup hstart
  refine ⟨r', hread, ?_⟩
  rw [hr', Choice.after_eq_given]
  intro p
  rw [List.append_nil, List.mem_reverse, hperm.mem_iff, w.mem_parts_iff]

end

/-! ## The environment -/

section

variable (g : Given) (value : Option Text)

/-- The archive is taken from its variable if it is not given. -/
theorem fromVariable_archiveUrl :
    fromVariable .archiveUrl value g = .ok { g with archiveUrl := g.archiveUrl.or value } := by
  obtain ⟨_, archiveUrl, _, _, _, _⟩ := g
  cases value <;> cases archiveUrl <;> rfl

/-- The directory is taken from its variable if it is not given. An empty one is refused, but only
where it would be taken. -/
theorem fromVariable_toolDirectory :
    fromVariable .toolDirectory value g =
      if g.toolDirectory = none ∧ value = some [] then .error (.missingValue .toolDirectory)
      else .ok { g with toolDirectory := g.toolDirectory.or value } := by
  obtain ⟨_, _, toolDirectory, _, _, _⟩ := g
  cases value with
  | none => cases toolDirectory <;> rfl
  | some v =>
      cases toolDirectory with
      | some d => rfl
      | none => cases v <;> rfl

end

/-- **Options survive in any order and spelling.** However a choice of options is written, and
whatever the environment, the options that are read are those of the choice. What is not given is
taken from the environment for the archive and the directory, where an empty directory is refused,
and is 30 seconds for the timeout. -/
theorem parse_of_isWrittenAs (env : Environment) (w : Choice) {args : List Text}
    (h : w.IsWrittenAs args) :
    parse env args =
      if w.toolDirectory = none ∧ env.toolDirectory = some [] then
        .error (.fault (.missingValue .toolDirectory))
      else .ok
        { version := w.version
          archiveUrl := w.archiveUrl.or env.archiveUrl
          toolDirectory := w.toolDirectory.or env.toolDirectory
          output := w.output
          timeout := w.timeout.getD 30 * 1000
          dryRun := w.dryRun } := by
  obtain ⟨r, hread, hr⟩ := readArguments_of_isWrittenAs h
  simp only [parse, hread, hr, complete, fromVariable_archiveUrl, fromVariable_toolDirectory,
    Choice.given]
  by_cases hempty : w.toolDirectory = none ∧ env.toolDirectory = some []
  · rw [if_pos hempty, if_pos hempty]
  · rw [if_neg hempty, if_neg hempty]
    rfl

/-- A choice without a directory, whose values have hyphens and equals signs. -/
def choiceWithoutDirectory : Choice where
  version := "3.4.0-beta03".toList
  archiveUrl := some "https://host/?page=1&all=--dry-run".toList
  toolDirectory := none
  output := some ['-']
  timeout := some 5
  dryRun := true
  toolDirectory_ne_empty := by decide
  output_ne_empty := by decide
  timeout_lt_bound := by decide

/-- Arguments that write it. -/
def argumentsWithoutDirectory : List Text :=
  ["--timeout", "5", "-o", "-", "--archive-url=https://host/?page=1&all=--dry-run",
    "3.4.0-beta03", "--dry-run"].map String.toList

theorem parse_of_isWrittenAs_withoutDirectory :
    choiceWithoutDirectory.IsWrittenAs argumentsWithoutDirectory ∧
      parse ⟨some "https://other".toList, some "tools".toList⟩ argumentsWithoutDirectory =
        .ok
          { version := "3.4.0-beta03".toList
            archiveUrl := some "https://host/?page=1&all=--dry-run".toList
            toolDirectory := some "tools".toList
            output := some ['-']
            timeout := 5000
            dryRun := true } := by
  have hwritten : choiceWithoutDirectory.IsWrittenAs argumentsWithoutDirectory := by
    refine ⟨[.setting .timeout, .setting .output, .setting .archiveUrl, .version, .dryRun],
      [["--timeout".toList, "5".toList], ["-o".toList, ['-']],
        ["--archive-url=https://host/?page=1&all=--dry-run".toList], ["3.4.0-beta03".toList],
        ["--dry-run".toList]], by decide, ?_, rfl⟩
    refine .cons (.apart rfl ?_) (.cons (.short rfl ?_) (.cons (.joined rfl)
      (.cons (.version ?_) (.cons (.dryRun rfl) .nil))))
    · decide
    · decide
    · decide
  exact ⟨hwritten, parse_of_isWrittenAs _ _ hwritten⟩

end StudioLookup.CommandLine
