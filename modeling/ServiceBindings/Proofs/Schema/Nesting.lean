import Mathlib.Data.List.Basic
import ServiceBindings.Schema.Basic

/-!
# Nested messages

A message is found by the names that lead to it: the name of a top-level message, of a message
nested in that one, and so on down to its own.  The paths of all messages are listed in
pre-order, a message before the ones nested in it and these before the next one beside it.
-/

namespace ServiceBindings.Schema.Message

/-- Whether names lead to a message: from one of the given messages inwards, the last name being
that of the message itself. -/
inductive Leads : List Message → List String → Prop where
  | itself {messages : List Message} {message : Message} :
      message ∈ messages → Leads messages [message.name]
  | inwards {messages : List Message} {message : Message} {path : List String} :
      message ∈ messages → Leads message.nested path → Leads messages (message.name :: path)

theorem leads_iff (messages : List Message) (path : List String) :
    Leads messages path ↔ ∃ message ∈ messages, path = [message.name] ∨
      ∃ inner, path = message.name :: inner ∧ Leads message.nested inner := by
  constructor
  · intro leads
    cases leads with
    | itself member => exact ⟨_, member, .inl rfl⟩
    | inwards member inner => exact ⟨_, member, .inr ⟨_, rfl, inner⟩⟩
  · intro given
    obtain ⟨message, member, rfl | ⟨inner, rfl, leads⟩⟩ := given
    · exact .itself member
    · exact .inwards member leads

theorem Leads.ne_nil {messages : List Message} {path : List String}
    (leads : Leads messages path) : path ≠ [] := by
  cases leads with
  | itself _ => exact List.cons_ne_nil _ _
  | inwards _ _ => exact List.cons_ne_nil _ _

mutual

/-- The paths of a message and of the messages nested in it, in pre-order. -/
def paths : Message → List (List String)
  | ⟨name, nested⟩ => [name] :: (pathsIn nested).map (name :: ·)

/-- The paths of messages and of the messages nested in them, in pre-order. -/
def pathsIn : List Message → List (List String)
  | [] => []
  | message :: rest => message.paths ++ pathsIn rest

end

theorem pathsIn_eq_flatMap (messages : List Message) :
    pathsIn messages = messages.flatMap paths := by
  induction messages with
  | nil => rfl
  | cons message rest ih => rw [pathsIn, ih, List.flatMap_cons]

mutual

theorem mem_paths_iff (path : List String) : (message : Message) →
    (path ∈ message.paths ↔ path = [message.name] ∨
      ∃ inner, path = message.name :: inner ∧ Leads message.nested inner)
  | ⟨name, nested⟩ => by
    rw [paths, List.mem_cons, List.mem_map]
    apply or_congr_right
    apply exists_congr
    intro inner
    rw [mem_pathsIn_iff inner nested, eq_comm, and_comm]

/-- The listed paths are those that lead to a message. -/
theorem mem_pathsIn_iff (path : List String) : (messages : List Message) →
    (path ∈ pathsIn messages ↔ Leads messages path)
  | [] => by
    rw [pathsIn, leads_iff]
    simp
  | message :: rest => by
    rw [pathsIn, List.mem_append, mem_paths_iff path message, mem_pathsIn_iff path rest,
      leads_iff rest, leads_iff (message :: rest), List.exists_mem_cons_iff]

end

theorem eq_cons_of_mem_paths {message : Message} {path : List String}
    (member : path ∈ message.paths) : path = message.name :: path.tail := by
  obtain rfl | ⟨inner, rfl, _⟩ := (mem_paths_iff path message).mp member
  · rfl
  · rfl

end ServiceBindings.Schema.Message
