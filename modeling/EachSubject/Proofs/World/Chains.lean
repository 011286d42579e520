import EachSubject.Description
import EachSubject.Proofs.Library
import EachSubject.Proofs.World.Declared

/-!
# Chains of generic classes

A subject class may stand several generic classes below the base class of subjects, each of which gives arguments to
the one above. What it binds for the base class is then the arguments at the top of the chain, with the type
parameters of each class on the way down replaced by what they stand for there.
-/

namespace EachSubject.World

/-- The type parameters of a class. -/
def parametersOf (w : World) (name : ClassName) : List Value := ((w.class? name).map (·.typeParameters)).getD []

/-- A class that is derived from, with the arguments that it is given. -/
structure Link where
  base : ClassName
  given : List Value

/-- The class is declared below another one, to which it gives one argument for each type parameter. No base before
    that one leads to the base class of subjects. -/
structure Derives (w : World) (name : ClassName) (link : Link) : Prop where
  declared : ∃ c ∈ w.classes, c.name = name ∧ ∃ before after,
    c.basesAsWritten = before ++ .subscripted (.userClass link.base) link.given :: after ∧
      ∀ base ∈ before, ∀ origin, Hint.originClass? base = some origin → w.isSubclass origin subjectClass = false
  each : link.given.length = (w.parametersOf link.base).length

/-- The links from a class up to the base class of subjects, the lowest first. -/
inductive Chain (w : World) : ClassName → List Link → Prop where
  | last {name : ClassName} {given : List Value} (derives : w.Derives name ⟨subjectClass, given⟩) :
      Chain w name [⟨subjectClass, given⟩]
  | further {name : ClassName} {link : Link} {links : List Link} (derives : w.Derives name link)
      (above : Chain w link.base links) : Chain w name (link :: links)

/-- The arguments at the top of a chain, with the type parameters of every class below replaced by its arguments, one
    class after the other down the chain. -/
def composed (w : World) : List Link → List Value
  | [] => []
  | [link] => link.given
  | link :: links => (w.composed links).map (Hint.replace ((w.parametersOf link.base).zip link.given))

/-- A type variable by itself, or a type in which none occurs. -/
def IsFlat (argument : Value) : Prop :=
  (∃ scope name, argument = .typeVar scope name) ∨ Hint.occurring argument = []

/-- Where variables stand by themselves only, replacing those is replacing all. -/
theorem substitute_flat (bindings : List (Value × Value)) {argument : Value} (flat : IsFlat argument) :
    substitute bindings argument = Hint.replace bindings argument := by
  rcases flat with ⟨scope, name, rfl⟩ | closed
  · rfl
  · rw [Hint.replace_closed bindings argument closed]
    cases argument <;> first | rfl | cases closed

/-- A variable inside of a type stays, so that an argument that is not flat is not composed. -/
example : substitute [(.typeVar "shop" "T", .ofClass (.builtin "int"))]
    (.subscripted (.native (.builtin "list")) [.typeVar "shop" "T"]) =
      .subscripted (.native (.builtin "list")) [.typeVar "shop" "T"] := rfl

variable {w : World} {name : ClassName} {link : Link} {links : List Link}

theorem subject_order (declared : w.Declared) : w.orderOf subjectClass = [subjectClass, genericClass, objectClass] := by
  rw [orderOf, declared.class?_library (c := Library.subject) rfl]
  rfl

theorem subject_parameters (declared : w.Declared) : (w.parametersOf subjectClass).length = 2 := by
  rw [parametersOf, declared.class?_library (c := Library.subject) rfl]
  rfl

private theorem Derives.not_library (declared : w.Declared) (derives : w.Derives name link) :
    Library.class? name = none := by
  obtain ⟨c, inside, rfl, _⟩ := derives.declared
  exact declared.not_library inside

/-- The order of a class goes on through that of the class that it gives arguments to. -/
private theorem Derives.goesOn (declared : w.Declared) (derives : w.Derives name link)
    (notList : link.base ≠ genericClass) :
    ∃ tail, w.orderOf name = name :: tail ∧ (w.orderOf link.base).Sublist tail := by
  obtain ⟨c, inside, rfl, before, after, written, _⟩ := derives.declared
  have keeps := declared.keeps inside
  obtain ⟨tail, starts, above⟩ := keeps.order
  have isBase : link.base ∈ c.bases := by
    refine keeps.bases link.base link.given ?_ notList
    rw [ClassInfo.Subscripts, written]
    exact List.mem_append_right _ List.mem_cons_self
  refine ⟨tail, ?_, above link.base isBase⟩
  rw [orderOf, declared.class?_of_mem inside]
  exact starts

namespace Chain

private theorem not_library (declared : w.Declared) (chain : w.Chain name links) : Library.class? name = none := by
  cases chain with
  | last derives => exact derives.not_library declared
  | further derives above => exact derives.not_library declared

private theorem ne_library (declared : w.Declared) (chain : w.Chain name links) {other : ClassName} {c : ClassInfo}
    (isLibrary : Library.class? other = some c) : name ≠ other := by
  rintro rfl
  rw [chain.not_library declared] at isLibrary
  cases isLibrary

/-- The base class of subjects comes later in the order of the class, by more places than there are links. -/
theorem order (declared : w.Declared) (chain : w.Chain name links) :
    subjectClass ∈ w.orderOf name ∧ links.length < (w.orderOf name).length := by
  induction chain with
  | last derives =>
    obtain ⟨tail, starts, above⟩ := derives.goesOn declared (show subjectClass ≠ genericClass by decide)
    rw [subject_order declared] at above
    rw [starts]
    refine ⟨List.mem_cons_of_mem _ (above.mem List.mem_cons_self), ?_⟩
    have long := above.length_le
    simp only [List.length_cons, List.length_nil] at long ⊢
    omega
  | @further name link links derives above ih =>
    obtain ⟨tail, starts, goesOn⟩ := derives.goesOn declared (above.ne_library declared rfl)
    rw [starts]
    refine ⟨List.mem_cons_of_mem _ (goesOn.mem ih.1), ?_⟩
    have long := goesOn.length_le
    simp only [List.length_cons] at long ⊢
    omega

private theorem composed_cons (chain : w.Chain name links) : w.composed (link :: links) =
    (w.composed links).map (Hint.replace ((w.parametersOf link.base).zip link.given)) := by
  cases chain with
  | last _ => rfl
  | further _ _ => rfl

/-- The first base that leads to the base class of subjects is the one of the link. -/
private theorem findSome?_link {find : Value → Option (List Value)} {before after : List Value} {base : Value}
    {found : List Value} (refused : ∀ other ∈ before, find other = none) (finds : find base = some found) :
    (before ++ base :: after).findSome? find = some found := by
  rw [List.findSome?_append, List.findSome?_eq_none_iff.2 refused, Option.none_or, List.findSome?_cons, finds]

/-- What following the base of a link gives. -/
private theorem arguments_linked (declared : w.Declared) (derives : w.Derives name link)
    (leads : w.isSubclass link.base subjectClass = true) {fuel : Nat} {found : List Value}
    (finds : (if link.base = subjectClass then if link.given.isEmpty then none else some link.given
      else (w.argumentsWithin subjectClass fuel link.base).map fun inner =>
        inner.map (substitute ((w.parametersOf link.base).zip link.given))) = some found) :
    w.argumentsWithin subjectClass (fuel + 1) name = some found := by
  obtain ⟨c, inside, rfl, before, after, written, refused⟩ := derives.declared
  have given : Hint.arguments (.subscripted (.userClass link.base) link.given) = link.given := rfl
  rw [argumentsWithin, declared.class?_of_mem inside]
  dsimp only
  rw [written]
  refine findSome?_link (fun other among => ?_) ?_
  · cases isOrigin : Hint.originClass? other with
    | none => rfl
    | some origin =>
      dsimp only
      rw [refused other among origin isOrigin]
      rfl
  · rw [show Hint.originClass? (.subscripted (.userClass link.base) link.given) = some link.base from rfl, given]
    dsimp only
    rw [leads]
    exact finds

/-- Following the links up gives the composed arguments, if what each class above the lowest one binds is flat. -/
theorem arguments_found (declared : w.Declared) (chain : w.Chain name links) {fuel : Nat}
    (enough : links.length ≤ fuel)
    (flat : ∀ above, above <:+ links.tail → ∀ argument ∈ w.composed above, IsFlat argument) :
    w.argumentsWithin subjectClass fuel name = some (w.composed links) := by
  induction chain generalizing fuel with
  | @last name given derives =>
    obtain ⟨less, rfl⟩ : ∃ less, fuel = less + 1 := ⟨fuel - 1, by simp only [List.length_cons] at enough; omega⟩
    have leads : w.isSubclass subjectClass subjectClass = true := by
      rw [isSubclass, subject_order declared]
      decide
    refine arguments_linked declared derives leads ?_
    have two : given.length = 2 := derives.each.trans (subject_parameters declared)
    have some : given.isEmpty = false := by
      cases given with
      | nil => cases two
      | cons _ _ => rfl
    rw [if_pos rfl, some]
    rfl
  | @further name link links derives above ih =>
    obtain ⟨less, rfl⟩ : ∃ less, fuel = less + 1 := ⟨fuel - 1, by simp only [List.length_cons] at enough; omega⟩
    rw [List.tail_cons] at flat
    have leads : w.isSubclass link.base subjectClass = true := List.contains_iff_mem.2 (above.order declared).1
    have inner := ih (Nat.le_of_succ_le_succ enough) fun behind suffix =>
      flat behind (suffix.trans (List.tail_suffix links))
    refine arguments_linked declared derives leads ?_
    have apart : link.base ≠ subjectClass := above.ne_library declared rfl
    rw [if_neg apart, inner, Option.map_some, above.composed_cons]
    refine congrArg some (List.map_congr_left fun argument among => ?_)
    exact substitute_flat _ (flat links (List.suffix_refl _) argument among)

private theorem given_variables (declared : w.Declared) (derives : w.Derives name link) :
    ∀ v ∈ Hint.occurringAll link.given, v ∈ w.parametersOf name := by
  obtain ⟨c, inside, rfl, before, after, written, _⟩ := derives.declared
  intro v occurs
  have subscripts : c.Subscripts link.base link.given := by
    rw [ClassInfo.Subscripts, written]
    exact List.mem_append_right _ List.mem_cons_self
  rw [parametersOf, declared.class?_of_mem inside]
  exact (declared.keeps inside).parameters _ _ subscripts v
    (Hint.mem_freeVariables.2 (Hint.mem_occurringAll.1 occurs))

/-- No variables are left in the composed arguments but the type parameters of the lowest class. -/
theorem composed_variables (declared : w.Declared) (chain : w.Chain name links) :
    ∀ v ∈ Hint.occurringAll (w.composed links), v ∈ w.parametersOf name := by
  induction chain with
  | last derives => exact given_variables declared derives
  | further derives above ih =>
    intro v occurs
    rw [above.composed_cons, ← Hint.replaceAll_eq_map] at occurs
    exact given_variables declared derives v (Hint.occurringAll_replace derives.each _ ih occurs)

end Chain

/-- The target of a described class is the argument that the class binds at its place. -/
private theorem target_of_describe {isEnum : Bool} {shape : SubjectShape} {arguments : List Value}
    (bound : w.typeArguments? name subjectClass = some arguments)
    (described : w.describe (.class name isEnum) = .ok shape) :
    ∃ target, arguments[targetIndex]? = some target ∧ Hint.format target = .ok shape.target := by
  obtain ⟨⟨found, subjectName, text⟩, isHead, described⟩ := bind_eq_ok_iff.1 described
  obtain ⟨methods, _, same⟩ := bind_eq_ok_iff.1 described
  cases same
  rw [Description.head, subjectClass?] at isHead
  by_cases below : w.isSubclass name subjectClass = true
  · rw [if_pos below] at isHead
    obtain ⟨full, _, isHead⟩ := bind_eq_ok_iff.1 isHead
    by_cases inner : (!name.isTopLevel) = true
    · rw [if_pos inner] at isHead
      cases isHead
    rw [if_neg inner] at isHead
    obtain ⟨target, isTarget, same⟩ := bind_eq_ok_iff.1 isHead
    cases same
    rw [Description.targetText, typeParameter, bound] at isTarget
    have place : (targetIndex : Int).toNat = targetIndex := rfl
    simp only [show ¬(targetIndex : Int) < 0 by decide, if_false, place] at isTarget
    cases isBound : arguments[targetIndex]? with
    | none =>
      rw [isBound] at isTarget
      cases isTarget
    | some value =>
      rw [isBound] at isTarget
      refine ⟨value, rfl, ?_⟩
      cases value
      case typeVar => cases isTarget
      all_goals exact mapError_eq_ok_iff.1 isTarget
  · rw [if_neg below] at isHead
    obtain ⟨_, _, thrown⟩ := bind_eq_ok_iff.1 isHead
    cases thrown

/-- A class at the end of a chain binds for the base class of subjects what the arguments along the chain compose to,
    if variables stand by themselves in what each class above it binds. Its target is made of these arguments, so no
    variable is left in it but type parameters of the class itself. -/
theorem typeArguments_composed (declared : w.Declared) (chain : w.Chain name links)
    (flat : ∀ above, above <:+ links.tail → ∀ argument ∈ w.composed above, IsFlat argument) :
    w.typeArguments? name subjectClass = some (w.composed links) ∧
    ∀ isEnum shape, w.describe (.class name isEnum) = .ok shape →
      ∃ target, (w.composed links)[targetIndex]? = some target ∧ Hint.format target = .ok shape.target ∧
        ∀ v ∈ Hint.freeVariables [target], v ∈ w.parametersOf name := by
  have bound : w.typeArguments? name subjectClass = some (w.composed links) :=
    chain.arguments_found declared (Nat.le_of_lt (chain.order declared).2) flat
  refine ⟨bound, fun isEnum shape described => ?_⟩
  obtain ⟨target, isTarget, printed⟩ := target_of_describe bound described
  refine ⟨target, isTarget, printed, fun v free => ?_⟩
  obtain ⟨value, among, occurs⟩ := Hint.mem_freeVariables.1 free
  cases List.mem_singleton.1 among
  exact chain.composed_variables declared v (Hint.mem_occurringAll.2 ⟨target, List.mem_of_getElem? isTarget, occurs⟩)

/-! ### An example -/

/-- A class with one base, to which it gives arguments. -/
def below (name base : ClassName) (given : List Value) : ClassDeclaration where
  name := name
  kind := .ordinary
  bases := [.subscripted (.userClass base) given]
  members := []

/-- What the declaration of a class with one base makes. -/
def madeBelow (w : World) (name base : ClassName) (given : List Value) : ClassInfo where
  name := name
  bases := [base]
  writtenBases := some [.subscripted (.userClass base) given]
  typeParameters := Hint.freeVariables [.subscripted (.userClass base) given]
  order := name :: w.orderOf base

set_option maxRecDepth 4096 in
private theorem object_notSolid : "object" ∉ Library.solidClasses :=
  (Library.mem_words String.toList_ofList).not.2 (by decide +kernel)

/-- A class can be declared with a single base that has no class of the language above it but the root. -/
theorem classFor_single {w : World} {d : ClassDeclaration} {base : ClassName} {order : List ClassName}
    {parameters : List Value} (ordinary : d.kind = .ordinary) (noList : namesPlainGeneric d.bases = false)
    (single : w.basesFrom d.bases d.bases = .ok [base])
    (outside : ∀ above ∈ w.orderOf base, above.module = ClassName.builtinModule → above = objectClass)
    (extensible : w.isExtensible base = true)
    (linear : Linearization.linearize d.name [base] [w.orderOf base] = some order)
    (free : (if hasWrittenBases d.bases then typeParametersOf d.bases else .ok []) = .ok parameters) :
    w.classFor d = .ok (d.members.foldl ClassInfo.withMember (plainClass d .ordinary [base] order parameters)) := by
  have notSolid : w.solidOf base = none := by
    rw [solidOf, List.find?_eq_none]
    intro above among solid
    rw [Bool.and_eq_true, beq_iff_eq, List.contains_iff_mem] at solid
    rw [outside above among solid.1] at solid
    exact object_notSolid solid.2
  have compatible : w.areCompatible [base] = true := by
    simp [areCompatible, extensible, fitTogether, notSolid]
  rw [classFor, ordinary]
  refine bind_eq_ok_iff.2 ⟨.ordinary, rfl, ?_⟩
  refine (if_neg (show ¬namesPlainGeneric d.bases = true by simp [noList])).trans ?_
  refine bind_eq_ok_iff.2 ⟨[base], single, ?_⟩
  refine (if_neg (show ¬(!w.areCompatible [base]) = true by simp [compatible])).trans ?_
  refine bind_eq_ok_iff.2 ⟨order, congrArg (Fault.orElse .mismatch) linear, ?_⟩
  by_cases written : hasWrittenBases d.bases = true
  · rw [if_pos written] at free ⊢
    exact bind_eq_ok_iff.2 ⟨parameters, free, rfl⟩
  · rw [if_neg written] at free ⊢
    exact bind_eq_ok_iff.2 ⟨parameters, free, rfl⟩

/-- A class can be declared below one that has no class of the language above it but the root. -/
theorem classFor_below {w : World} {name base : ClassName} {given : List Value}
    (notList : base ≠ genericClass)
    (outside : ∀ above ∈ w.orderOf base, above.module = ClassName.builtinModule → above = objectClass)
    (extensible : w.isExtensible base = true)
    (linear : Linearization.linearize name [base] [w.orderOf base] = some (name :: w.orderOf base)) :
    w.classFor (below name base given) = .ok (w.madeBelow name base given) := by
  have bases : w.basesFrom (below name base given).bases (below name base given).bases = .ok [base] := by
    have listed : w.basesOf (below name base given).bases (.subscripted (.userClass base) given) [] = .ok [base] := by
      rw [basesOf, if_neg (by simp [notList])]
    exact bind_eq_ok_iff.2 ⟨_, listed, rfl⟩
  have parameters : typeParametersOf (below name base given).bases =
      .ok (Hint.freeVariables [.subscripted (.userClass base) given]) := by
    rw [typeParametersOf]
    simp [below, listedVariables?, notList]
  exact classFor_single rfl rfl bases outside extensible linear parameters

/-- `class Top(Subject[V, U])`: both type parameters are left open. -/
def topWorld : World := World.empty.withClass
  (World.empty.madeBelow ⟨"shop", "Top"⟩ subjectClass [.typeVar "shop" "V", .typeVar "shop" "U"])

/-- `class Middle(Top["Bottom", W])`: one of them is bound, the other one renamed. -/
def middleWorld : World := topWorld.withClass
  (topWorld.madeBelow ⟨"shop", "Middle"⟩ ⟨"shop", "Top"⟩ [.forward "Bottom", .typeVar "shop" "W"])

/-- What the lowest class gives: `dict[str, X]`. -/
def bottomGiven : List Value :=
  [.subscripted (.native (.builtin "dict")) [.ofClass (.builtin "str"), .typeVar "shop" "X"]]

/-- `class Bottom(Middle[dict[str, X]])`. -/
def bottomWorld : World := middleWorld.withClass
  (middleWorld.madeBelow ⟨"shop", "Bottom"⟩ ⟨"shop", "Middle"⟩ bottomGiven)

/-- The way from the lowest class up. -/
def bottomLinks : List Link :=
  [⟨⟨"shop", "Middle"⟩, bottomGiven⟩, ⟨⟨"shop", "Top"⟩, [.forward "Bottom", .typeVar "shop" "W"]⟩,
   ⟨subjectClass, [.typeVar "shop" "V", .typeVar "shop" "U"]⟩]

private theorem declare_below {w : World} {name base : ClassName} {given : List Value} (declared : w.Declared)
    (fresh : w.class? name = none) (known : (w.class? base).isSome = true)
    (made : w.classFor (below name base given) = .ok (w.madeBelow name base given)) :
    (w.withClass (w.madeBelow name base given)).Declared := by
  refine declared.declare (d := below name base given) (bind_eq_ok_iff.2 ⟨_, made, rfl⟩) fresh ?_
  intro c isMade other isBase
  cases isMade.symm.trans made
  cases List.mem_singleton.1 isBase
  exact known

theorem bottomWorld_declared : bottomWorld.Declared := by
  have top : topWorld.Declared := declare_below .empty rfl rfl
    (classFor_below (by decide) (by decide) rfl rfl)
  have middle : middleWorld.Declared := declare_below top rfl rfl
    (classFor_below (by decide) (by decide) rfl rfl)
  exact declare_below middle rfl rfl (classFor_below (by decide) (by decide) rfl rfl)

private theorem bottom_derives {w : World} {name base : ClassName} {given : List Value} (before : World)
    (inside : before.madeBelow name base given ∈ w.classes) (each : given.length = (w.parametersOf base).length) :
    w.Derives name ⟨base, given⟩ where
  declared := ⟨_, inside, rfl, [], [], rfl, fun _ among => absurd among List.not_mem_nil⟩
  each := each

theorem bottomWorld_chain : bottomWorld.Chain ⟨"shop", "Bottom"⟩ bottomLinks := by
  refine .further (bottom_derives middleWorld List.mem_cons_self rfl) ?_
  refine .further (bottom_derives topWorld (.tail _ List.mem_cons_self) rfl) ?_
  exact .last (bottom_derives .empty (.tail _ (.tail _ List.mem_cons_self)) rfl)

theorem bottomLinks_flat : ∀ above, above <:+ bottomLinks.tail → ∀ argument ∈ bottomWorld.composed above,
    IsFlat argument := by
  intro above suffix
  simp only [bottomLinks, List.tail_cons, List.suffix_cons_iff, List.suffix_nil] at suffix
  rcases suffix with rfl | rfl | rfl
  · intro argument among
    have composes : bottomWorld.composed bottomLinks.tail = [.forward "Bottom", .typeVar "shop" "W"] := rfl
    rw [show [_, _] = bottomLinks.tail from rfl, composes] at among
    rcases List.mem_cons.1 among with rfl | among
    · exact .inr rfl
    · cases List.mem_singleton.1 among
      exact .inl ⟨_, _, rfl⟩
  · intro argument among
    rcases List.mem_cons.1 among with rfl | among
    · exact .inl ⟨_, _, rfl⟩
    · cases List.mem_singleton.1 among
      exact .inl ⟨_, _, rfl⟩
  · exact fun _ among => absurd among List.not_mem_nil

/-- The lowest class binds `("Bottom", dict[str, X])`. -/
theorem bottom_typeArguments : bottomWorld.Declared ∧ bottomWorld.Chain ⟨"shop", "Bottom"⟩ bottomLinks ∧
    (∀ above, above <:+ bottomLinks.tail → ∀ argument ∈ bottomWorld.composed above, IsFlat argument) ∧
    bottomWorld.typeArguments? ⟨"shop", "Bottom"⟩ subjectClass = some (.forward "Bottom" :: bottomGiven) :=
  ⟨bottomWorld_declared, bottomWorld_chain, bottomLinks_flat,
    (typeArguments_composed bottomWorld_declared bottomWorld_chain bottomLinks_flat).1⟩

end EachSubject.World
