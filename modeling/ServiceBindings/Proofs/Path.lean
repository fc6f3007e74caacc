import Mathlib.Data.List.Induction
import Mathlib.Data.List.TakeWhile
import ServiceBindings.Path

/-!
# Joined paths

What can be read back from a joined path: its last segment, if there is no slash inside, and
the directory before it.  Two paths with the same front are equal if and only if their last
segments are, up to slashes at the ends.  No slash is left at the ends of a joined path, and
so segments can be joined in stages.
-/

namespace ServiceBindings

namespace Text

/-- Whether a text is empty or ends in a separator, so that what follows it is set off. -/
def IsPrefixTo (separator : Char) (front : String) : Prop :=
  front = "" ∨ ∃ rest, front = rest ++ String.singleton separator

/-- What follows the last separator of a text can be told from what comes before. -/
theorem append_inj_of_isPrefixTo {separator : Char} {left right : String}
    (leftIsPrefix : IsPrefixTo separator left) (rightIsPrefix : IsPrefixTo separator right)
    {leftName rightName : String} (leftAbsent : separator ∉ leftName.toList)
    (rightAbsent : separator ∉ rightName.toList)
    (same : left ++ leftName = right ++ rightName) : left = right ∧ leftName = rightName := by
  have lastName : ∀ {front name : String}, IsPrefixTo separator front →
      separator ∉ name.toList →
        (front ++ name).toList.reverse.takeWhile (· != separator) = name.toList.reverse := by
    intro front name isPrefix absent
    have inside : ∀ c ∈ name.toList.reverse, (c != separator) = true := by
      intro c member
      rw [bne_iff_ne]
      intro same
      subst same
      exact absent (List.mem_reverse.mp member)
    rw [String.toList_append, List.reverse_append, List.takeWhile_append_of_pos inside]
    rcases isPrefix with rfl | ⟨rest, rfl⟩
    · simp
    · simp
  have reversed : leftName.toList.reverse = rightName.toList.reverse := by
    rw [← lastName leftIsPrefix leftAbsent, ← lastName rightIsPrefix rightAbsent, same]
  have sameName : leftName = rightName :=
    String.toList_inj.mp (List.reverse_inj.mp reversed)
  subst sameName
  exact ⟨(String.append_left_inj leftName).mp same, rfl⟩

theorem dropWhile_append_of_absent {separator : Char} {name : List Char} (nonempty : name ≠ [])
    (absent : separator ∉ name) (rest : List Char) :
    (name ++ rest).dropWhile (· == separator) = name ++ rest := by
  rcases List.exists_cons_of_ne_nil nonempty with ⟨first, others, rfl⟩
  have different : ¬(first == separator) = true := by
    rw [beq_iff_eq]
    intro same
    subst same
    exact absent (by simp)
  rw [List.cons_append, List.dropWhile_cons, if_neg different]

theorem trimStart_append {separator : Char} (front : String) {name : String}
    (nonempty : name ≠ "") (absent : separator ∉ name.toList) :
    trimStart separator (front ++ name) = trimStart separator front ++ name := by
  have nameNonempty : name.toList ≠ [] := by simpa using nonempty
  have kept := dropWhile_append_of_absent nameNonempty absent []
  rw [List.append_nil] at kept
  rw [← String.toList_inj, String.toList_append]
  simp only [trimStart, String.toList_ofList, String.toList_append]
  rw [List.dropWhile_append]
  split
  · rename_i isEmpty
    rw [List.isEmpty_iff.mp isEmpty, kept]
    rfl
  · rfl

theorem trimBoth_append {separator : Char} (front : String) {name : String}
    (nonempty : name ≠ "") (absent : separator ∉ name.toList) :
    trimBoth separator (front ++ name) = trimStart separator front ++ name := by
  have reversedAbsent : separator ∉ name.toList.reverse := by simpa using absent
  have reversedNonempty : name.toList.reverse ≠ [] := by simpa using nonempty
  have start : (front ++ name).toList.dropWhile (· == separator) =
      (trimStart separator front ++ name).toList := by
    rw [← trimStart_append front nonempty absent, trimStart, String.toList_ofList]
  rw [← String.toList_inj, trimBoth, String.toList_ofList, stripEnds, start,
    String.toList_append, List.reverse_append,
    dropWhile_append_of_absent reversedNonempty reversedAbsent, List.reverse_append,
    List.reverse_reverse, List.reverse_reverse]

/-! ## Trimmed texts -/

/-- Whether a character is at neither end of a text. -/
structure IsTrimmed (unwanted : Char) (text : String) : Prop where
  first : text.toList.head? ≠ some unwanted
  last : text.toList.getLast? ≠ some unwanted

theorem head?_dropWhile_ne (unwanted : Char) (characters : List Char) :
    (characters.dropWhile (· == unwanted)).head? ≠ some unwanted := by
  induction characters with
  | nil => simp
  | cons c rest ih =>
      by_cases isUnwanted : c = unwanted
      · simpa [isUnwanted] using ih
      · simp [isUnwanted]

theorem dropWhile_eq_self_of_head? {unwanted : Char} {characters : List Char}
    (wanted : characters.head? ≠ some unwanted) :
    characters.dropWhile (· == unwanted) = characters := by
  cases characters with
  | nil => rfl
  | cons c rest =>
      have isWanted : c ≠ unwanted := by simpa using wanted
      simp [isWanted]

theorem head?_trimStart_ne (unwanted : Char) (text : String) :
    (trimStart unwanted text).toList.head? ≠ some unwanted := by
  rw [trimStart, String.toList_ofList]
  exact head?_dropWhile_ne unwanted _

theorem trimStart_eq_self {unwanted : Char} {text : String}
    (wanted : text.toList.head? ≠ some unwanted) : trimStart unwanted text = text := by
  rw [trimStart, dropWhile_eq_self_of_head? wanted, String.ofList_toList]

theorem isTrimmed_trimBoth (unwanted : Char) (text : String) :
    IsTrimmed unwanted (trimBoth unwanted text) := by
  constructor
  · -- what is dropped at the end leaves the first character in place
    intro isFirst
    rw [trimBoth, String.toList_ofList, stripEnds, List.head?_reverse] at isFirst
    have split := List.takeWhile_append_dropWhile (p := (· == unwanted))
      (l := (text.toList.dropWhile (· == unwanted)).reverse)
    have isStart := congrArg List.getLast? split
    rw [List.getLast?_append, isFirst, Option.some_or, List.getLast?_reverse] at isStart
    exact head?_dropWhile_ne unwanted text.toList isStart.symm
  · rw [trimBoth, String.toList_ofList, stripEnds, List.getLast?_reverse]
    exact head?_dropWhile_ne unwanted _

theorem IsTrimmed.trimBoth_eq {unwanted : Char} {text : String}
    (trimmed : IsTrimmed unwanted text) : trimBoth unwanted text = text := by
  have reversed : text.toList.reverse.head? ≠ some unwanted := by
    rw [List.head?_reverse]
    exact trimmed.last
  rw [← String.toList_inj, trimBoth, String.toList_ofList, stripEnds,
    dropWhile_eq_self_of_head? trimmed.first, dropWhile_eq_self_of_head? reversed,
    List.reverse_reverse]

theorem trimBoth_append_singleton (unwanted : Char) (text : String) :
    trimBoth unwanted (text ++ String.singleton unwanted) = trimBoth unwanted text := by
  rw [← String.toList_inj, trimBoth, trimBoth, String.toList_ofList, String.toList_ofList,
    stripEnds, stripEnds, String.toList_append, String.toList_singleton, List.dropWhile_append]
  split
  · rename_i isEmpty
    rw [List.isEmpty_iff.mp isEmpty]
    simp
  · simp

theorem trimBoth_eq_self {separator : Char} {name : String} (absent : separator ∉ name.toList) :
    trimBoth separator name = name := by
  have trimmed : IsTrimmed separator name := by
    constructor
    · intro isFirst
      exact absent (List.mem_of_head? isFirst)
    · intro isLast
      exact absent (List.mem_of_getLast? isLast)
  exact trimmed.trimBoth_eq

end Text

namespace Path

/-- The segments of a joined path. -/
def parts (segments : List String) : List String :=
  (segments.map (Text.trimBoth '/')).filter (!·.isEmpty)

theorem join_eq (segments : List String) :
    join segments = String.intercalate "/" (parts segments) := rfl

@[simp] theorem parts_append (front back : List String) :
    parts (front ++ back) = parts front ++ parts back := by
  simp [parts]

theorem parts_singleton {segment : String} (nonempty : Text.trimBoth '/' segment ≠ "") :
    parts [segment] = [Text.trimBoth '/' segment] := by
  simp [parts, nonempty]

/-- A directory with a slash after it, unless it is the empty one. -/
def directoryPrefix (directory : String) : String :=
  if directory.isEmpty then "" else directory ++ "/"

theorem isPrefixTo_directoryPrefix (directory : String) :
    Text.IsPrefixTo '/' (directoryPrefix directory) := by
  rw [directoryPrefix]
  split
  · exact .inl rfl
  · exact .inr ⟨directory, rfl⟩

theorem directoryPrefix_inj {left right : String} :
    directoryPrefix left = directoryPrefix right ↔ left = right := by
  constructor
  · intro same
    rw [directoryPrefix, directoryPrefix] at same
    by_cases leftEmpty : left = ""
    · by_cases rightEmpty : right = ""
      · rw [leftEmpty, rightEmpty]
      · simp [leftEmpty, rightEmpty] at same
    · by_cases rightEmpty : right = ""
      · simp [leftEmpty, rightEmpty] at same
      · simpa [leftEmpty, rightEmpty] using same
  · intro same
    subst same
    rfl

theorem join_eq_empty_iff (segments : List String) : join segments = "" ↔ parts segments = [] := by
  constructor
  · intro isEmpty
    by_contra nonempty
    rcases List.exists_cons_of_ne_nil nonempty with ⟨first, rest, isCons⟩
    have firstNonempty : first ≠ "" := by
      have member : first ∈ parts segments := by simp [isCons]
      simpa using (List.mem_filter.mp member).2
    rw [join_eq, isCons] at isEmpty
    cases rest with
    | nil => simp [firstNonempty] at isEmpty
    | cons second others => simp [firstNonempty] at isEmpty
  · intro noParts
    rw [join_eq, noParts]
    rfl

/-- A joined path is its last segment after the directory that is joined of the others. -/
theorem join_concat (front : List String) {last : String}
    (nonempty : Text.trimBoth '/' last ≠ "") :
    join (front ++ [last]) = directoryPrefix (join front) ++ Text.trimBoth '/' last := by
  rw [join_eq, parts_append, parts_singleton nonempty]
  by_cases noParts : parts front = []
  · have isEmpty : join front = "" := (join_eq_empty_iff front).mpr noParts
    simp [noParts, isEmpty, directoryPrefix]
  · have notEmpty : join front ≠ "" := mt (join_eq_empty_iff front).mp noParts
    rw [String.intercalate_append_of_ne_nil noParts (by simp), ← join_eq]
    simp [directoryPrefix, notEmpty]

theorem join_concat_of_absent (front : List String) {name : String} (nonempty : name ≠ "")
    (absent : '/' ∉ name.toList) :
    join (front ++ [name]) = directoryPrefix (join front) ++ name := by
  have trimmed := Text.trimBoth_eq_self absent
  rw [join_concat front (by rwa [trimmed]), trimmed]

theorem join_concat_of_trimmed_empty (front : List String) {last : String}
    (isEmpty : Text.trimBoth '/' last = "") : join (front ++ [last]) = join front := by
  simp [join_eq, parts, isEmpty]

/-- Segments of which nothing is dropped are joined as they are. -/
theorem join_of_absent {segments : List String} (named : ∀ segment ∈ segments, segment ≠ "")
    (absent : ∀ segment ∈ segments, '/' ∉ segment.toList) :
    join segments = String.intercalate "/" segments := by
  have trimmed : ∀ segment ∈ segments, Text.trimBoth '/' segment = id segment :=
    fun segment member => Text.trimBoth_eq_self (absent segment member)
  have kept : segments.filter (!·.isEmpty) = segments := by
    rw [List.filter_eq_self]
    intro segment member
    simp [named segment member]
  rw [join_eq, parts, List.map_congr_left trimmed, List.map_id, kept]

/-- Paths to names without slashes agree if and only if directories and names do. -/
theorem join_concat_inj {left right : List String} {leftName rightName : String}
    (leftNonempty : leftName ≠ "") (leftAbsent : '/' ∉ leftName.toList)
    (rightNonempty : rightName ≠ "") (rightAbsent : '/' ∉ rightName.toList) :
    join (left ++ [leftName]) = join (right ++ [rightName]) ↔
      join left = join right ∧ leftName = rightName := by
  rw [join_concat_of_absent left leftNonempty leftAbsent,
    join_concat_of_absent right rightNonempty rightAbsent]
  constructor
  · intro same
    have ⟨sameDirectory, sameName⟩ := Text.append_inj_of_isPrefixTo
      (isPrefixTo_directoryPrefix _) (isPrefixTo_directoryPrefix _) leftAbsent rightAbsent same
    exact ⟨directoryPrefix_inj.mp sameDirectory, sameName⟩
  · intro given
    rcases given with ⟨sameDirectory, rfl⟩
    rw [sameDirectory]

/-- Paths with the same front agree if and only if what follows does, up to slashes. -/
theorem join_concat_left_inj (front : List String) (left right : String) :
    join (front ++ [left]) = join (front ++ [right]) ↔
      Text.trimBoth '/' left = Text.trimBoth '/' right := by
  have different : ∀ {last : String}, Text.trimBoth '/' last ≠ "" →
      join (front ++ [last]) ≠ join front := by
    intro last nonempty same
    rw [join_concat front nonempty] at same
    rw [directoryPrefix] at same
    split at same
    · rename_i isEmpty
      simp only [String.isEmpty_iff] at isEmpty
      rw [isEmpty, String.empty_append] at same
      exact nonempty same
    · have lengths := congrArg String.length same
      simp only [String.length_append] at lengths
      have slash : "/".length = 1 := rfl
      omega
  by_cases leftEmpty : Text.trimBoth '/' left = ""
  · by_cases rightEmpty : Text.trimBoth '/' right = ""
    · rw [join_concat_of_trimmed_empty front leftEmpty,
        join_concat_of_trimmed_empty front rightEmpty, leftEmpty, rightEmpty]
      exact iff_of_true rfl rfl
    · rw [join_concat_of_trimmed_empty front leftEmpty, leftEmpty]
      exact ⟨fun same => absurd same.symm (different rightEmpty),
        fun same => absurd same.symm rightEmpty⟩
  · by_cases rightEmpty : Text.trimBoth '/' right = ""
    · rw [join_concat_of_trimmed_empty front rightEmpty, rightEmpty]
      exact ⟨fun same => absurd same (different leftEmpty), fun same => absurd same leftEmpty⟩
    · rw [join_concat front leftEmpty, join_concat front rightEmpty, String.append_right_inj]

/-- A joined path ends like its last segment. -/
theorem suffix_join_concat (front : List String) (name : String) {ending : String}
    (nonempty : ending ≠ "") (absent : '/' ∉ ending.toList) :
    ending.toList <:+ (join (front ++ [name ++ ending])).toList := by
  have trimmed := Text.trimBoth_append name nonempty absent
  have trimmedNonempty : Text.trimBoth '/' (name ++ ending) ≠ "" := by
    rw [trimmed]
    simp [nonempty]
  rw [join_concat front trimmedNonempty, trimmed, String.toList_append, String.toList_append]
  exact (List.suffix_append _ _).trans (List.suffix_append _ _)

/-! ## Regrouping -/

theorem isTrimmed_join (segments : List String) : Text.IsTrimmed '/' (join segments) := by
  induction segments using List.reverseRecOn with
  | nil => exact ⟨by decide, by decide⟩
  | append_singleton front last ih =>
      by_cases isEmpty : Text.trimBoth '/' last = ""
      · rw [join_concat_of_trimmed_empty front isEmpty]
        exact ih
      · have trimmed := Text.isTrimmed_trimBoth '/' last
        have nonempty : (Text.trimBoth '/' last).toList ≠ [] := by simpa using isEmpty
        rw [join_concat front isEmpty, directoryPrefix]
        split
        · rw [String.empty_append]
          exact trimmed
        · rename_i notEmpty
          have frontNonempty : (join front).toList ≠ [] := by simpa using notEmpty
          constructor
          · rw [String.toList_append, String.toList_append, List.append_assoc,
              List.head?_append, Option.or_of_isSome (by simpa using frontNonempty)]
            exact ih.first
          · rw [String.toList_append, List.getLast?_append,
              Option.or_of_isSome (by simpa using nonempty)]
            exact trimmed.last

theorem parts_join (segments : List String) :
    parts [join segments] = if join segments = "" then [] else [join segments] := by
  have trimmed := (isTrimmed_join segments).trimBoth_eq
  rw [parts, List.map_singleton, trimmed]
  by_cases isEmpty : join segments = ""
  · simp [isEmpty]
  · simp [isEmpty]

/-- Joining in two stages is joining at once. -/
theorem join_append (front back : List String) :
    join (front ++ back) = join [join front, join back] := by
  have regrouped : join [join front, join back] =
      String.intercalate "/" (parts [join front] ++ parts [join back]) := by
    rw [join_eq, ← parts_append]
    rfl
  rw [regrouped, parts_join, parts_join, join_eq, parts_append]
  by_cases noFront : join front = ""
  · rw [if_pos noFront, (join_eq_empty_iff front).mp noFront, List.nil_append, ← join_eq]
    by_cases noBack : join back = ""
    · simp [noBack]
    · simp [noBack]
  · have frontParts : parts front ≠ [] := mt (join_eq_empty_iff front).mpr noFront
    rw [if_neg noFront]
    by_cases noBack : join back = ""
    · rw [if_pos noBack, (join_eq_empty_iff back).mp noBack, List.append_nil, ← join_eq]
      simp
    · have backParts : parts back ≠ [] := mt (join_eq_empty_iff back).mpr noBack
      rw [if_neg noBack, String.intercalate_append_of_ne_nil frontParts backParts, ← join_eq,
        ← join_eq]
      simp

theorem join_singleton_join (segments : List String) : join [join segments] = join segments := by
  rw [join_eq, parts_join]
  by_cases isEmpty : join segments = ""
  · simp [isEmpty]
  · simp [isEmpty]

theorem join_cons (first : String) (rest : List String) :
    join (first :: rest) = join [first, join rest] :=
  calc join (first :: rest) = join [join [first], join rest] := join_append [first] rest
    _ = join [join [first], join [join rest]] := by rw [join_singleton_join]
    _ = join [first, join rest] := (join_append [first] [join rest]).symm

theorem join_empty_cons (segments : List String) : join ("" :: segments) = join segments := rfl

end Path

end ServiceBindings
