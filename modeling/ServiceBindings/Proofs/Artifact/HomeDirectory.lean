import ServiceBindings.Artifact.Export
import ServiceBindings.Proofs.Disk.Joining

/-!
# The home directory in bases

A base that starts with `~/` continues the home directory by the names that follow, as long as
these do not start at the root.  If they do, the home directory is lost.  A base that starts in
another way is what it says.
-/

namespace ServiceBindings.Artifact

open Disk (isAbsolute joinPath steps)

/-! ## What bases expand to -/

theorem expandHome_of_plain (home? : Option String) {base : String}
    (notHome : base.toList ≠ ['~']) (notBelow : ¬['~', '/'] <+: base.toList) :
    expandHome home? base = .ok base := by
  rw [expandHome]
  split
  · rename_i isTilde
    exact absurd isTilde notHome
  · rename_i rest isTilde
    exact absurd ⟨rest, isTilde.symm⟩ notBelow
  · rfl

theorem expandHome_of_noTilde (home? : Option String) {base : String}
    (noTilde : base.toList.head? ≠ some '~') : expandHome home? base = .ok base := by
  apply expandHome_of_plain
  · intro isTilde
    exact noTilde (by rw [isTilde]; rfl)
  · rintro ⟨rest, isTilde⟩
    exact noTilde (by rw [← isTilde]; rfl)

theorem expandHome_of_isAbsolute (home? : Option String) {base : String}
    (absolute : isAbsolute base = true) : expandHome home? base = .ok base := by
  apply expandHome_of_noTilde
  rw [isAbsolute, beq_iff_eq] at absolute
  rw [absolute]
  decide

theorem expandHome_below (home rest : String) :
    expandHome (some home) ("~/" ++ rest) = .ok (joinPath home rest) := by
  have isTilde : ("~/" ++ rest).toList = '~' :: '/' :: rest.toList := by simp
  rw [expandHome, isTilde]
  simp [expandHome.known]

/-- Exports to bases that expand to the same directory are the same. -/
theorem exportTo_congr (tree : Tree) {home? : Option String} {base other : String}
    (same : expandHome home? base = expandHome home? other) :
    tree.exportTo home? base = tree.exportTo home? other := by
  rw [Tree.exportTo, same, ← Tree.exportTo]

/-! ## Bases below the home directory -/

/-- Whether a path starts where another one does and leads on from there by given names. -/
structure Continues (start : String) (names : List String) (path : String) : Prop where
  isAbsolute_eq : isAbsolute path = isAbsolute start
  steps_eq : steps path = steps start ++ names

theorem continues_joinPath_iff {home : String} (absolute : isAbsolute home = true)
    (rest : String) :
    Continues home (steps rest) (joinPath home rest) ↔
      isAbsolute rest = false ∨ steps home = [] := by
  cases isRooted : isAbsolute rest with
  | false =>
      refine iff_of_true ⟨?_, ?_⟩ (.inl rfl)
      · exact Disk.isAbsolute_joinPath home isRooted
      · exact Disk.steps_joinPath home isRooted
  | true =>
      rw [Disk.joinPath_of_isAbsolute home isRooted]
      constructor
      · intro continues
        exact .inr (List.self_eq_append_left.mp continues.steps_eq)
      · rintro (isRelative | atRoot)
        · cases isRelative
        · exact ⟨by rw [isRooted, absolute], by rw [atRoot, List.nil_append]⟩

/-- What a base means when there is a home directory.

* After `~/` it leads on from the home directory by the names that follow exactly if these do not
  start at the root, or the home directory is the root itself; exporting there is exporting to the
  joined path.
* A base that is not `~` and does not start with `~/` is used as it is. -/
theorem expandHome_continues_home {home : String} (absolute : isAbsolute home = true) :
    (∀ rest, ∃ expanded, expandHome (some home) ("~/" ++ rest) = .ok expanded ∧
      (∀ tree : Tree,
        tree.exportTo (some home) ("~/" ++ rest) = tree.exportTo (some home) expanded) ∧
      (Continues home (steps rest) expanded ↔ isAbsolute rest = false ∨ steps home = []) ∧
      (isAbsolute rest = false → steps home <+: steps expanded)) ∧
    ∀ (home? : Option String) (base : String), base ≠ "~" → ¬"~/".toList <+: base.toList →
      expandHome home? base = .ok base := by
  refine ⟨?_, ?_⟩
  · intro rest
    have isExpanded := expandHome_below home rest
    have continues := continues_joinPath_iff absolute rest
    refine ⟨joinPath home rest, isExpanded, ?_, continues, ?_⟩
    · intro tree
      have isAbove := Disk.isAbsolute_joinPath_of_isAbsolute absolute rest
      exact exportTo_congr tree (isExpanded.trans (expandHome_of_isAbsolute _ isAbove).symm)
    · intro relative
      exact ⟨steps rest, (continues.mpr (.inl relative)).steps_eq.symm⟩
  · intro home? base notHome notBelow
    refine expandHome_of_plain home? ?_ notBelow
    intro isTilde
    exact notHome (String.toList_inj.mp isTilde)

theorem expandHome_continues_home_java : ∃ expanded,
    isAbsolute "/home/user" = true ∧ isAbsolute "gen/java" = false ∧
      expandHome (some "/home/user") ("~/" ++ "gen/java") = .ok expanded ∧
      Continues "/home/user" ["gen", "java"] expanded ∧
      expandHome (some "/home/user") "out/~" = .ok "out/~" := by
  have absolute : isAbsolute "/home/user" = true := by decide
  have relative : isAbsolute "gen/java" = false := by decide
  obtain ⟨below, plain⟩ := expandHome_continues_home absolute
  obtain ⟨expanded, isExpanded, _, continues, _⟩ := below "gen/java"
  exact ⟨expanded, absolute, relative, isExpanded, continues.mpr (.inl relative),
    plain _ "out/~" (by decide) (by decide)⟩

/-- A second slash after `~` discards the home directory. -/
theorem not_expandHome_always_in_home :
    ¬∀ home rest expanded : String, isAbsolute home = true →
      expandHome (some home) ("~/" ++ rest) = .ok expanded → steps home <+: steps expanded := by
  intro always
  have isLost : expandHome (some "/home/user") ("~/" ++ "/k") = .ok "/k" := rfl
  exact absurd (always "/home/user" "/k" "/k" (by decide) isLost) (by decide)

end ServiceBindings.Artifact
