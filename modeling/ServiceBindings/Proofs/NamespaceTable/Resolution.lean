import ServiceBindings.Proofs.NamespaceTable.Declaration
import ServiceBindings.Proofs.Path
import ServiceBindings.Proofs.Text.Segments

/-!
# Resolution of declared messages

A reference by full name, with any number of dots in front, finds the message again if its name
is declared once.  The class it resolves to is then the one that the names of the message lead
to in the namespace of its file.
-/

namespace ServiceBindings

open Schema (File Message TypeName)

/-! ## References -/

/-- Leading dots make no difference to a reference. -/
theorem Schema.TypeName.ofText_replicate_append (dots : Nat) {text : String}
    (first : text.toList.head? ≠ some '.') :
    ofText (String.ofList (List.replicate dots '.') ++ text) = ⟨text⟩ := by
  have areDots : ∀ c ∈ List.replicate dots '.', (c == '.') = true := by
    intro c member
    rw [(List.mem_replicate.mp member).2]
    rfl
  rw [ofText, Text.trimStart, String.toList_append, String.toList_ofList,
    List.dropWhile_append_of_pos areDots, Text.dropWhile_eq_self_of_head? first,
    String.ofList_toList]

/-- The simple name of a reference is what follows its last dot. -/
theorem Schema.TypeName.simpleName_append {front last : String}
    (isPrefix : Text.IsPrefixTo '.' front) (absent : '.' ∉ last.toList) :
    simpleName ⟨front ++ last⟩ = last := by
  rw [simpleName]
  cases isPrefix with
  | inl isEmpty =>
      rw [isEmpty, String.empty_append, Text.cutLast?_of_absent absent]
  | inr given =>
      obtain ⟨rest, rfl⟩ := given
      rw [Text.cutLast?_append_separator_append rest absent]

/-! ## Names and namespaces of messages -/

theorem Identifier.exists_qualify_eq_append (space name : String) :
    ∃ front, Text.IsPrefixTo '.' front ∧ Identifier.qualify space name = front ++ name := by
  by_cases isEmpty : space = ""
  · exact ⟨"", .inl rfl, by simp [isEmpty]⟩
  · exact ⟨space ++ ".", .inr ⟨space, rfl⟩, Identifier.qualify_of_ne_empty isEmpty name⟩

namespace Schema.File

variable (file : File) {path : List String} (named : ∀ name ∈ path, name ≠ "")

include named

/-- A full name is the package qualified by the names one after the other. -/
theorem nameAt_eq_foldl (nonempty : path ≠ []) :
    file.nameAt path = path.foldl Identifier.qualify file.packageOrEmpty := by
  rw [Identifier.foldl_qualify _ named, nameAt, qualify]
  by_cases isEmpty : file.packageOrEmpty = ""
  · simp [isEmpty]
  · rw [if_neg isEmpty, Identifier.qualify_of_ne_empty isEmpty,
      String.intercalate_cons_of_ne_nil nonempty]

theorem simpleName_nameAt (nonempty : path ≠ []) (absent : '.' ∉ (path.getLast nonempty).toList) :
    TypeName.simpleName ⟨file.nameAt path⟩ = path.getLast nonempty := by
  obtain ⟨front, isPrefix, isAppend⟩ := Identifier.exists_qualify_eq_append
    (path.dropLast.foldl Identifier.qualify file.packageOrEmpty) (path.getLast nonempty)
  rw [file.nameAt_eq_foldl named nonempty, ← Identifier.qualify_foldl_dropLast _ nonempty,
    isAppend]
  exact TypeName.simpleName_append isPrefix absent

theorem head?_nameAt_ne_dot (nonempty : path ≠ []) (absent : ∀ name ∈ path, '.' ∉ name.toList)
    (package : file.packageOrEmpty.toList.head? ≠ some '.') :
    (file.nameAt path).toList.head? ≠ some '.' := by
  have headOfAppend {front : String} (frontNonempty : front ≠ "") (back : String) :
      (front ++ back).toList.head? = front.toList.head? := by
    rw [String.toList_append]
    exact List.head?_append_of_ne_nil _ (by simpa using frontNonempty)
  rw [nameAt, qualify]
  by_cases isEmpty : file.packageOrEmpty = ""
  · cases path with
    | nil => exact absurd rfl nonempty
    | cons first rest =>
        have joined := String.intercalate_cons_append (s := ".") (t := first) (u := "") (l := rest)
        rw [String.append_empty] at joined
        rw [isEmpty, Identifier.qualify_empty, joined,
          headOfAppend (named first List.mem_cons_self)]
        intro isDot
        exact absent first List.mem_cons_self (List.mem_of_head? isDot)
  · rw [Identifier.qualify_of_ne_empty isEmpty, String.append_assoc, headOfAppend isEmpty]
    exact package

end Schema.File

namespace NamespaceTable

/-- The full names that files declare, as often as they declare them. -/
def fullNames (files : List File) : List String :=
  (declaredIn files).map fun (file, path) => file.nameAt path

theorem spaceOf?_of_declared_once {files : List File} {file : File} {path : List String}
    (member : file ∈ files) (leads : Message.Leads file.messages path)
    (once : (fullNames files).count (file.nameAt path) = 1) :
    (ofFiles files).spaceOf? (file.nameAt path) = some (file.spaceAt path) := by
  obtain ⟨before, after, split⟩ :=
    List.append_of_mem (mem_declaredIn_iff.mpr ⟨member, leads⟩)
  refine (spaceOf?_ofFiles_eq_some_iff files _ _).mpr
    ⟨before, file, path, after, split, ?_, rfl, rfl⟩
  intro earlier earlierMember sameName
  rw [fullNames, split, List.map_append, List.map_cons, List.count_append,
    List.count_cons_self] at once
  have inBefore : 0 < (before.map fun (file, path) => file.nameAt path).count
      (file.nameAt path) :=
    List.count_pos_iff.mpr (sameName ▸ List.mem_map_of_mem earlierMember)
  omega

/-- The full name of a message that is declared once resolves to the class of that message,
however many dots stand in front: to the names that lead to the message, in the namespace of
its file unless that is empty. -/
theorem text_resolve_of_declared_once {files : List File} {file : File} (member : file ∈ files)
    (package : file.packageOrEmpty.toList.head? ≠ some '.') {path : List String}
    (leads : Message.Leads file.messages path)
    (named : ∀ name ∈ path, name ≠ "" ∧ '.' ∉ name.toList)
    (once : (fullNames files).count (file.nameAt path) = 1) (dots : Nat) :
    ((ofFiles files).resolve (TypeName.ofText
        (String.ofList (List.replicate dots '.') ++ file.nameAt path))).text =
      String.intercalate "." (if file.space = "" then path else file.space :: path) := by
  have nonempty : path ≠ [] := leads.ne_nil
  have areNamed : ∀ name ∈ path, name ≠ "" := fun name member => (named name member).1
  have absent : ∀ name ∈ path, '.' ∉ name.toList := fun name member => (named name member).2
  have reference := TypeName.ofText_replicate_append dots
    (file.head?_nameAt_ne_dot areNamed nonempty absent package)
  have simple := file.simpleName_nameAt areNamed nonempty (absent _ (List.getLast_mem nonempty))
  have found := spaceOf?_of_declared_once member leads once
  calc ((ofFiles files).resolve (TypeName.ofText
        (String.ofList (List.replicate dots '.') ++ file.nameAt path))).text
      = Identifier.qualify (file.spaceAt path) (path.getLast nonempty) := by
        rw [reference, resolve, ClassName.text, found, simple, Option.getD_some]
    _ = path.foldl Identifier.qualify file.space :=
        Identifier.qualify_foldl_dropLast file.space nonempty
    _ = String.intercalate "." (if file.space = "" then path else file.space :: path) :=
        Identifier.foldl_qualify file.space areNamed

theorem text_resolve_of_declared_once_item :
    let orders : File := ⟨"shop/orders.proto", some "shop", ⟨some "com.shop", false, none⟩,
      [⟨"Order", [⟨"Item", []⟩]⟩], [], []⟩
    let returns : File := ⟨"shop/returns.proto", some "shop", .default, [⟨"Order", []⟩], [], []⟩
    (fullNames [returns, orders]).count (orders.nameAt ["Order", "Item"]) = 1 ∧
      ((ofFiles [returns, orders]).resolve (TypeName.ofText "..shop.Order.Item")).text =
        "com.shop.Orders.Order.Item" := by
  intro orders returns
  have leads : Message.Leads orders.messages ["Order", "Item"] :=
    .inwards List.mem_cons_self (.itself List.mem_cons_self)
  have named : ∀ name ∈ ["Order", "Item"], name ≠ "" ∧ '.' ∉ name.toList := by decide
  have once : (fullNames [returns, orders]).count (orders.nameAt ["Order", "Item"]) = 1 := by decide
  have reference : String.ofList (List.replicate 2 '.') ++ orders.nameAt ["Order", "Item"] =
      "..shop.Order.Item" := by decide
  have className : String.intercalate "."
      (if orders.space = "" then ["Order", "Item"] else orders.space :: ["Order", "Item"]) =
        "com.shop.Orders.Order.Item" := by decide
  have member : orders ∈ [returns, orders] := List.mem_cons_of_mem _ List.mem_cons_self
  have resolved := text_resolve_of_declared_once member (by decide) leads named once 2
  rw [reference, className] at resolved
  exact ⟨once, resolved⟩

end NamespaceTable

end ServiceBindings
