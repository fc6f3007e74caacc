import Mathlib.Data.List.Dedup
import Mathlib.Data.List.Induction
import ServiceBindings.Proofs.Artifact.Collector
import ServiceBindings.Proofs.Artifact.Directories

/-!
# Offers to a collector

However artifacts are handed to a collector, what it holds and what it reports depend on their
sequence alone.  An artifact is refused if it has no path, or if an earlier one has the same
path.  The first refusal is what is reported in the end, and no refusal changes what is held.
-/

namespace ServiceBindings.Artifact

theorem Path.text_inj {left right : Path} : left.text = right.text ↔ left = right := by
  constructor
  · intro same
    cases left
    cases right
    cases same
    rfl
  · intro same
    rw [same]

namespace Offer

/-- The path of an offered artifact, or what is wrong with it. -/
def path (offer : Offer) : Except ArtifactError Path := Path.ofGiven offer.given

/-- The path of an offered artifact, if it has one. -/
def path? (offer : Offer) : Option Path := offer.path.toOption

/-- The offer of a generated file. -/
def ofFile (file : GeneratedFile) : Offer := ⟨.text file.path, file.content⟩

theorem path?_eq_some_iff {offer : Offer} {path : Path} :
    offer.path? = some path ↔ offer.path = .ok path := by
  rw [path?]
  cases offer.path with
  | error error => simp [Except.toOption]
  | ok valid => simp [Except.toOption]

/-- How an artifact that is offered after others is refused. -/
inductive IsRefused (earlier : List Offer) (offer : Offer) : ArtifactError → Prop where
  | invalid {error : ArtifactError} (isInvalid : offer.path = .error error) :
      IsRefused earlier offer error
  | repeated {path : Path} {other : Offer} (valid : offer.path = .ok path)
      (member : other ∈ earlier) (taken : other.path = .ok path) :
      IsRefused earlier offer (.duplicate path.text)

end Offer

/-- Whether none of some offered artifacts is refused: they all have paths, and no two have the
same one. -/
structure AreAcceptable (offers : List Offer) : Prop where
  valid : ∀ offer ∈ offers, ∃ path, offer.path = .ok path
  distinct : (offers.map Offer.path).Nodup

theorem areAcceptable_nil : AreAcceptable [] := ⟨by simp, by simp⟩

theorem AreAcceptable.of_append {front back : List Offer}
    (acceptable : AreAcceptable (front ++ back)) : AreAcceptable front := by
  have distinct := acceptable.distinct
  rw [List.map_append] at distinct
  exact ⟨fun offer member => acceptable.valid offer (List.mem_append_left back member),
    (List.nodup_append.mp distinct).1⟩

theorem areAcceptable_concat_iff {offers : List Offer} {offer : Offer} :
    AreAcceptable (offers ++ [offer]) ↔
      AreAcceptable offers ∧ ∀ error, ¬offer.IsRefused offers error := by
  constructor
  · intro acceptable
    refine ⟨acceptable.of_append, ?_⟩
    intro error refused
    cases refused with
    | invalid isInvalid =>
        obtain ⟨path, valid⟩ := acceptable.valid offer List.mem_concat_self
        rw [isInvalid] at valid
        cases valid
    | repeated valid member taken =>
        have distinct := acceptable.distinct
        rw [List.map_append, List.map_singleton, ← List.concat_eq_append,
          List.nodup_concat] at distinct
        apply distinct.1
        rw [valid, ← taken]
        exact List.mem_map_of_mem member
  · intro given
    obtain ⟨acceptable, notRefused⟩ := given
    cases isPath : offer.path with
    | error error => exact absurd (.invalid isPath) (notRefused error)
    | ok path =>
        constructor
        · intro other member
          cases List.mem_append.mp member with
          | inl earlier => exact acceptable.valid other earlier
          | inr isLast => exact ⟨path, by rw [List.mem_singleton.mp isLast, isPath]⟩
        · rw [List.map_append, List.map_singleton, ← List.concat_eq_append, List.nodup_concat]
          refine ⟨?_, acceptable.distinct⟩
          intro member
          obtain ⟨other, earlier, taken⟩ := List.mem_map.mp member
          exact notRefused _ (.repeated isPath earlier (taken.trans isPath))

/-- If an artifact is refused, there is a first one. -/
theorem exists_first_refused {offers : List Offer} (unacceptable : ¬AreAcceptable offers) :
    ∃ before offer after error, offers = before ++ offer :: after ∧ AreAcceptable before ∧
      offer.IsRefused before error := by
  induction offers using List.reverseRecOn with
  | nil => exact absurd areAcceptable_nil unacceptable
  | append_singleton front last ih =>
      by_cases frontAcceptable : AreAcceptable front
      · rw [areAcceptable_concat_iff, not_and, not_forall] at unacceptable
        obtain ⟨error, refused⟩ := unacceptable frontAcceptable
        exact ⟨front, last, [], error, rfl, frontAcceptable, not_not.mp refused⟩
      · obtain ⟨before, offer, after, error, rfl, acceptable, refused⟩ := ih frontAcceptable
        exact ⟨before, offer, after ++ [last], error, by simp, acceptable, refused⟩

namespace Collector

/-! ## One offer -/

variable (collector : Collector) {offer : Offer}

theorem take_of_path_eq_error {error : ArtifactError} (isInvalid : offer.path = .error error) :
    collector.take offer = collector.refuse error := by
  rw [Offer.path, Path.ofGiven] at isInvalid
  rw [take]
  cases isText : offer.given.asText with
  | error unreadable =>
      rw [isText] at isInvalid
      cases isInvalid
      rfl
  | ok text =>
      rw [isText] at isInvalid
      have malformed : Path.ofText text = .error error := isInvalid
      simp only [add, Tree.add, malformed]

theorem take_of_path_eq_ok {path : Path} (valid : offer.path = .ok path) :
    collector.take offer =
      if collector.tree.contents.contains path.text then
        collector.refuse (.duplicate path.text)
      else { collector with tree := collector.tree.put path offer.content } := by
  rw [Offer.path, Path.ofGiven] at valid
  rw [take]
  cases isText : offer.given.asText with
  | error unreadable =>
      rw [isText] at valid
      cases valid
  | ok text =>
      rw [isText] at valid
      have isPath : Path.ofText text = .ok path := valid
      simp only [add, Tree.add, isPath]
      cases collector.tree.contents.contains path.text <;> rfl

/-! ## Sequences of offers -/

theorem takeAll_append (front back : List Offer) :
    collector.takeAll (front ++ back) = (collector.takeAll front).takeAll back :=
  List.foldl_append

theorem takeAll_concat (offers : List Offer) (offer : Offer) :
    collector.takeAll (offers ++ [offer]) = (collector.takeAll offers).take offer :=
  List.foldl_concat _ _ _ _

theorem addCode_eq_takeAll (code : GeneratedCode) :
    collector.addCode code = collector.takeAll (code.map Offer.ofFile) := by
  rw [addCode, takeAll, List.foldl_map]
  rfl

/-- A collector keeps its errors. -/
theorem exists_refusals_takeAll (offers : List Offer) :
    ∃ later, (collector.takeAll offers).refusals = collector.refusals ++ later := by
  induction offers using List.reverseRecOn with
  | nil => exact ⟨[], (List.append_nil _).symm⟩
  | append_singleton front offer ih =>
      obtain ⟨later, kept⟩ := ih
      rw [takeAll_concat]
      cases isPath : offer.path with
      | error error =>
          rw [take_of_path_eq_error _ isPath, refuse, kept, List.append_assoc]
          exact ⟨_, rfl⟩
      | ok path =>
          rw [take_of_path_eq_ok _ isPath]
          split
          · rw [refuse, kept, List.append_assoc]
            exact ⟨_, rfl⟩
          · exact ⟨later, kept⟩

/-- At a path a collector holds what the first artifact with that path holds. -/
theorem find?_takeAll (offers : List Offer) (path : Path) :
    (empty.takeAll offers).tree.contents.find? path.text =
      (offers.find? (·.path? = some path)).map (·.content) := by
  induction offers using List.reverseRecOn with
  | nil => rfl
  | append_singleton front offer ih =>
      rw [takeAll_concat, List.find?_append]
      cases isPath : offer.path with
      | error error =>
          have noPath : offer.path? ≠ some path := by simp [Offer.path?_eq_some_iff, isPath]
          rw [take_of_path_eq_error _ isPath]
          simpa [refuse, noPath] using ih
      | ok other =>
          rw [take_of_path_eq_ok _ isPath]
          have hasPath : offer.path? = some path ↔ path = other := by
            rw [Offer.path?_eq_some_iff, isPath, Except.ok.injEq, eq_comm]
          by_cases same : path = other
          · subst same
            have isOffer : [offer].find? (·.path? = some path) = some offer := by simp [hasPath]
            rw [isOffer]
            cases found : front.find? (·.path? = some path) with
            | none =>
                rw [found, Option.map_none] at ih
                simp [Dictionary.contains, ih, Tree.put, Dictionary.find?_insert]
            | some first =>
                rw [found, Option.map_some] at ih
                simp [Dictionary.contains, ih, refuse]
          · have otherText : path.text ≠ other.text := mt Path.text_inj.mp same
            have noOffer : [offer].find? (·.path? = some path) = none := by simp [hasPath, same]
            rw [noOffer, Option.or_none]
            split
            · exact ih
            · rw [← ih]
              simp [Tree.put, Dictionary.find?_insert, otherText]

theorem contains_takeAll_iff (offers : List Offer) (path : Path) :
    (empty.takeAll offers).tree.contents.contains path.text = true ↔
      ∃ offer ∈ offers, offer.path = .ok path := by
  rw [Dictionary.contains, find?_takeAll, Option.isSome_map, List.find?_isSome]
  simp only [decide_eq_true_eq, Offer.path?_eq_some_iff]

/-- An artifact that is refused is noted with its error, and all else stays as it was. -/
theorem take_of_isRefused {offers : List Offer} {error : ArtifactError}
    (refused : offer.IsRefused offers error) :
    (empty.takeAll offers).take offer = (empty.takeAll offers).refuse error := by
  cases refused with
  | invalid isInvalid => exact take_of_path_eq_error _ isInvalid
  | repeated valid member taken =>
      have isTaken := (contains_takeAll_iff offers _).mpr ⟨_, member, taken⟩
      rw [take_of_path_eq_ok _ valid, if_pos isTaken]

/-- A collector has no errors as long as no artifact is refused. -/
theorem refusals_takeAll_of_areAcceptable {offers : List Offer}
    (acceptable : AreAcceptable offers) : (empty.takeAll offers).refusals = [] := by
  induction offers using List.reverseRecOn with
  | nil => rfl
  | append_singleton front offer ih =>
      obtain ⟨frontAcceptable, notRefused⟩ := areAcceptable_concat_iff.mp acceptable
      rw [takeAll_concat]
      cases isPath : offer.path with
      | error error => exact absurd (.invalid isPath) (notRefused error)
      | ok path =>
          rw [take_of_path_eq_ok _ isPath]
          split
          · rename_i isTaken
            obtain ⟨other, member, taken⟩ := (contains_takeAll_iff front path).mp isTaken
            exact absurd (.repeated isPath member taken) (notRefused _)
          · exact ih frontAcceptable

/-- The first artifact that is refused decides what is reported. -/
theorem build_of_first_refused {before after : List Offer} {error : ArtifactError}
    (acceptable : AreAcceptable before) (refused : offer.IsRefused before error) :
    (empty.takeAll (before ++ offer :: after)).build = .error error := by
  obtain ⟨later, kept⟩ := exists_refusals_takeAll ((empty.takeAll before).refuse error) after
  have taken : empty.takeAll (before ++ offer :: after) =
      ((empty.takeAll before).refuse error).takeAll after := by
    rw [List.append_cons, takeAll_append, takeAll_concat, take_of_isRefused refused]
  rw [build_eq_error_iff, taken, kept, refuse, refusals_takeAll_of_areAcceptable acceptable]
  rfl

theorem build_takeAll_eq_error_iff {offers : List Offer} {error : ArtifactError} :
    (empty.takeAll offers).build = .error error ↔
      ∃ before offer after, offers = before ++ offer :: after ∧ AreAcceptable before ∧
        offer.IsRefused before error := by
  constructor
  · intro failed
    have unacceptable : ¬AreAcceptable offers := by
      intro acceptable
      rw [build_eq_error_iff, refusals_takeAll_of_areAcceptable acceptable] at failed
      cases failed
    obtain ⟨before, offer, after, first, rfl, acceptable, refused⟩ :=
      exists_first_refused unacceptable
    rw [build_of_first_refused acceptable refused] at failed
    cases failed
    exact ⟨before, offer, after, rfl, acceptable, refused⟩
  · intro given
    obtain ⟨before, offer, after, rfl, acceptable, refused⟩ := given
    exact build_of_first_refused acceptable refused

theorem exists_build_takeAll_iff {offers : List Offer} :
    (∃ tree, (empty.takeAll offers).build = .ok tree) ↔ AreAcceptable offers := by
  constructor
  · intro given
    obtain ⟨tree, built⟩ := given
    by_contra unacceptable
    obtain ⟨before, offer, after, error, isSplit, acceptable, refused⟩ :=
      exists_first_refused unacceptable
    rw [isSplit, build_of_first_refused acceptable refused] at built
    cases built
  · intro acceptable
    exact ⟨_, build_eq_ok_iff.mpr ⟨refusals_takeAll_of_areAcceptable acceptable, rfl⟩⟩

/-! ## What is held -/

theorem find?_eq_some_iff_of_areAcceptable {offers : List Offer}
    (acceptable : AreAcceptable offers) {path : Path} :
    offers.find? (·.path? = some path) = some offer ↔ offer ∈ offers ∧ offer.path = .ok path := by
  constructor
  · intro found
    have isPath := List.find?_some found
    rw [decide_eq_true_eq, Offer.path?_eq_some_iff] at isPath
    exact ⟨List.mem_of_find?_eq_some found, isPath⟩
  · intro given
    obtain ⟨member, isPath⟩ := given
    have isSome : (offers.find? (·.path? = some path)).isSome := by
      rw [List.find?_isSome]
      exact ⟨offer, member, decide_eq_true (Offer.path?_eq_some_iff.mpr isPath)⟩
    obtain ⟨first, found⟩ := Option.isSome_iff_exists.mp isSome
    have firstPath := List.find?_some found
    rw [decide_eq_true_eq, Offer.path?_eq_some_iff] at firstPath
    have same := List.inj_on_of_nodup_map acceptable.distinct (List.mem_of_find?_eq_some found)
      member (firstPath.trans isPath.symm)
    rw [found, same]

/-- A tree that is built holds the offered artifacts. -/
theorem mem_entries_of_build_takeAll {offers : List Offer} {tree : Tree}
    (built : (empty.takeAll offers).build = .ok tree) (entry : String × String) :
    entry ∈ tree.contents.entries ↔
      ∃ offer ∈ offers, ∃ path, offer.path = .ok path ∧ entry = (path.text, offer.content) := by
  have acceptable := exists_build_takeAll_iff.mp ⟨tree, built⟩
  have isTree := (build_eq_ok_iff.mp built).2
  have holds (path : Path) (content : String) :
      (path.text, content) ∈ tree.contents.entries ↔
        ∃ offer ∈ offers, offer.path = .ok path ∧ offer.content = content := by
    rw [← Dictionary.find?_eq_some_iff_mem, ← isTree, find?_takeAll, Option.map_eq_some_iff]
    simp only [find?_eq_some_iff_of_areAcceptable acceptable, and_assoc]
  constructor
  · intro member
    obtain ⟨offer, offerMember, isPath, isContent⟩ :=
      (holds ⟨entry.1, tree.isPath entry member⟩ entry.2).mp member
    exact ⟨offer, offerMember, _, isPath, by rw [isContent]⟩
  · intro given
    obtain ⟨offer, member, path, isPath, rfl⟩ := given
    exact (holds path offer.content).mpr ⟨offer, member, isPath, rfl⟩

/-- There are as many artifacts as there are different paths. -/
theorem size_takeAll (offers : List Offer) :
    (empty.takeAll offers).tree.size = (offers.filterMap Offer.path?).dedup.length := by
  have keysDistinct := (empty.takeAll offers).tree.contents.nodup_keys
  have textsDistinct : ((offers.filterMap Offer.path?).dedup.map Path.text).Nodup :=
    (List.nodup_dedup _).map fun _ _ same => Path.text_inj.mp same
  have sameTexts : (empty.takeAll offers).tree.contents.keys.Perm
      ((offers.filterMap Offer.path?).dedup.map Path.text) := by
    rw [List.perm_ext_iff_of_nodup keysDistinct textsDistinct]
    intro text
    rw [List.mem_map]
    simp only [List.mem_dedup, List.mem_filterMap, Offer.path?_eq_some_iff]
    constructor
    · intro member
      have isPath := Tree.isPath_of_mem_paths member
      rw [Dictionary.mem_keys_iff] at member
      exact ⟨⟨text, isPath⟩, (contains_takeAll_iff offers ⟨text, isPath⟩).mp member, rfl⟩
    · intro given
      obtain ⟨path, isTaken, rfl⟩ := given
      exact Dictionary.mem_keys_iff.mpr ((contains_takeAll_iff offers path).mpr isTaken)
  have lengths := sameTexts.length_eq
  rw [List.length_map, Dictionary.keys, List.length_map] at lengths
  exact lengths

end Collector

/-! ## Calls -/

/-- A call that hands artifacts to a collector. -/
inductive Call where
  | one (offer : Offer)
  | several (offers : List Offer)

namespace Call

/-- What is handed over in a call. -/
def offers : Call → List Offer
  | one offer => [offer]
  | several offers => offers

/-- The collector after a call. -/
def run (collector : Collector) : Call → Collector
  | one offer => collector.take offer
  | several offers => collector.takeAll offers

theorem run_eq_takeAll (collector : Collector) (call : Call) :
    call.run collector = collector.takeAll call.offers := by
  cases call <;> rfl

end Call

/-- How a collector gets its artifacts: it starts from generated code or with nothing, and then
there are calls. -/
structure Feeding where
  start : Option GeneratedCode
  calls : List Call

namespace Feeding

/-- All artifacts that are handed over, in order. -/
def offers (feeding : Feeding) : List Offer :=
  (feeding.start.getD []).map Offer.ofFile ++ feeding.calls.flatMap Call.offers

/-- The collector after all calls. -/
def collector (feeding : Feeding) : Collector :=
  feeding.calls.foldl Call.run
    (match feeding.start with
      | none => .empty
      | some code => Collector.empty.addCode code)

theorem foldl_run_eq_takeAll (collector : Collector) (calls : List Call) :
    calls.foldl Call.run collector = collector.takeAll (calls.flatMap Call.offers) := by
  induction calls generalizing collector with
  | nil => rfl
  | cons call rest ih =>
      rw [List.foldl_cons, ih, Call.run_eq_takeAll, List.flatMap_cons, Collector.takeAll_append]

theorem collector_eq_takeAll (feeding : Feeding) :
    feeding.collector = Collector.empty.takeAll feeding.offers := by
  obtain ⟨start, calls⟩ := feeding
  rw [collector, foldl_run_eq_takeAll, offers, Collector.takeAll_append]
  cases start with
  | none => rfl
  | some code =>
      simp only [Collector.addCode_eq_takeAll, Option.getD_some]

/-- What is built depends on the sequence of the artifacts alone: a tree of all of them if none
is refused, and otherwise the error of the first one that is.  At every point, that is after any
feeding, the collector holds the first artifact of each path and nothing else, and a refused
artifact leaves what it holds as it was. -/
theorem build_reports_first_refusal (feeding : Feeding) :
    (∀ other : Feeding, other.offers = feeding.offers →
      other.collector.build = feeding.collector.build) ∧
    ((∃ tree, feeding.collector.build = .ok tree) ↔ AreAcceptable feeding.offers) ∧
    (∀ tree, feeding.collector.build = .ok tree → ∀ entry, entry ∈ tree.contents.entries ↔
      ∃ offer ∈ feeding.offers, ∃ path, offer.path = .ok path ∧
        entry = (path.text, offer.content)) ∧
    (∀ error, feeding.collector.build = .error error ↔
      ∃ before offer after, feeding.offers = before ++ offer :: after ∧ AreAcceptable before ∧
        offer.IsRefused before error) ∧
    (∀ path : Path, feeding.collector.tree.contents.find? path.text =
      (feeding.offers.find? (·.path? = some path)).map (·.content)) ∧
    (∀ (offer : Offer) (error : ArtifactError), offer.IsRefused feeding.offers error →
      (feeding.collector.take offer).tree = feeding.collector.tree) ∧
    feeding.collector.tree.size = (feeding.offers.filterMap Offer.path?).dedup.length := by
  simp only [collector_eq_takeAll]
  refine ⟨?_, Collector.exists_build_takeAll_iff, ?_, ?_, ?_, ?_, ?_⟩
  · intro other sameOffers
    rw [sameOffers]
  · intro tree built
    exact Collector.mem_entries_of_build_takeAll built
  · intro error
    exact Collector.build_takeAll_eq_error_iff
  · exact Collector.find?_takeAll feeding.offers
  · intro offer error refused
    rw [Collector.take_of_isRefused refused]
    rfl
  · exact Collector.size_takeAll feeding.offers

end Feeding

end ServiceBindings.Artifact
