import AbiTypings.Proofs.Resolution

/-!
# Resolvers

A resolver answers one request after the other and keeps the built-ins that it meets. It records
the built-in that is an element before it asks the scope about this element, and still a request
that fails leaves no trace, because the name of a built-in is accepted in any scope. So a request
has the answer and the effect of its emission, whatever was asked before (`serve_eq`), and what a
resolver holds in the end depends only on which requests there were.
-/

namespace AbiTypings

/-- A resolver works in a scope and keeps the built-ins that it has recorded. -/
structure Resolver where
  /-- The scope. -/
  scope : Scope
  /-- The built-ins recorded. -/
  used : BuiltinSet := ∅
deriving DecidableEq, Repr

/-- Resolvers with the same scope and record are equal. -/
theorem Resolver.ext {left right : Resolver} (scope : left.scope = right.scope)
    (used : left.used = right.used) : left = right := by
  cases left
  cases right
  simp_all

/-- What a resolver is asked for; the text may be null. -/
inductive Request where
  /-- The expression for a token. -/
  | resolve (token : Option String)
  /-- The expression for a token whose optional mark has been removed. -/
  | resolveName (name : Option String)
deriving DecidableEq, Repr

/-- What a request emits in a scope. -/
def Request.emission (scope : Scope) : Request → Emission String
  | .resolve token => scope.resolve token
  | .resolveName name => scope.resolveName name

namespace Resolver

/-- The resolver with one more built-in recorded, if there is one. -/
def note (resolver : Resolver) (builtin : Option Builtin) : Resolver :=
  { resolver with used := builtin.elim resolver.used resolver.used.insert }

/-- Resolves a part of a token: the built-in that is the element of a name is recorded before the
scope is asked whether it accepts the element. -/
def resolvePart (resolver : Resolver) (name token : String) : Except Fault String × Resolver :=
  match Builtin.ofName? name with
  | some builtin => (.ok (resolver.scope.style.format name), resolver.note (some builtin))
  | none =>
    match fixedSpelling? name with
    | some spelling => (.ok spelling, resolver)
    | none =>
      let noted := resolver.note (Builtin.ofName? (elementName name))
      if resolver.scope.accepts (elementName name) then
        (.ok (resolver.scope.style.format name), noted)
      else
        (.error (.unresolvable (elementName name) token), noted)

/-- The answer to a request and the resolver after it. -/
def serve (resolver : Resolver) : Request → Except Fault String × Resolver
  | .resolve none | .resolveName none => (.error (.null .ending), resolver)
  | .resolveName (some name) => resolver.resolvePart name name
  | .resolve (some token) =>
    let (name, optional) := splitOptional token
    let (answer, next) := resolver.resolvePart name token
    (if optional then answer.map (· ++ absentAlternative) else answer, next)

/-- The answers to requests in order, and the resolver after the last of them. -/
def run (resolver : Resolver) : List Request → List (Except Fault String) × Resolver
  | [] => ([], resolver)
  | request :: rest =>
    let (answer, next) := resolver.serve request
    let (answers, last) := next.run rest
    (answer :: answers, last)

/-- The outcome of an emission and the resolver that has recorded what the emission records. -/
def after (resolver : Resolver) (emission : Emission String) : Except Fault String × Resolver :=
  (emission.outcome, { resolver with used := resolver.used ∪ emission.used })

/-! ## One request -/

section Serve

variable (resolver : Resolver)

/-- An emission that records nothing leaves the resolver as it is. -/
theorem after_of_empty (outcome : Except Fault String) :
    resolver.after ⟨outcome, ∅⟩ = (outcome, resolver) := by
  rw [after, BuiltinSet.union_empty]

/-- A change of the expression leaves what is recorded. -/
theorem after_map (emission : Emission String) (change : String → String) :
    resolver.after (emission >>= fun found => pure (change found)) =
      ((resolver.after emission).1.map change, (resolver.after emission).2) := by
  cases outcome : emission.outcome with
  | ok expression =>
    rw [Emission.bind_of_ok outcome]
    have same : emission.used ∪ (pure (change expression) : Emission String).used =
        emission.used := BuiltinSet.union_empty emission.used
    simp only [after, outcome, same]
    rfl
  | error fault =>
    rw [Emission.bind_of_error outcome]
    simp only [after, outcome]
    rfl

/-- A part of a token is resolved as the scope resolves it. -/
theorem resolvePart_eq_after (name token : String) :
    resolver.resolvePart name token = resolver.after (resolver.scope.resolvePart name token) := by
  rw [resolvePart, Scope.resolvePart]
  cases exact : Builtin.ofName? name with
  | some builtin => rfl
  | none =>
    cases fixed : fixedSpelling? name with
    | some spelling => exact (resolver.after_of_empty (.ok spelling)).symm
    | none =>
      dsimp only
      cases Builtin.ofName? (elementName name) with
      | some builtin =>
        have noted (outcome : Except Fault String) :
            resolver.after ⟨outcome, .singleton builtin ∪ ∅⟩ =
              (outcome, resolver.note (some builtin)) := by
          rw [BuiltinSet.union_empty]
          rfl
        rw [Emission.note_some_bind]
        split
        · exact (noted (.ok _)).symm
        · exact (noted (.error _)).symm
      | none =>
        rw [Emission.note_none_bind]
        split
        · exact (resolver.after_of_empty (.ok _)).symm
        · exact (resolver.after_of_empty (.error _)).symm

/-- A request has the outcome of its emission and records what the emission records. -/
theorem serve_eq (request : Request) :
    resolver.serve request = resolver.after (request.emission resolver.scope) := by
  cases request with
  | resolveName name =>
    cases name with
    | none => exact (resolver.after_of_empty (.error _)).symm
    | some name => exact resolver.resolvePart_eq_after name name
  | resolve token =>
    cases token with
    | none => exact (resolver.after_of_empty (.error _)).symm
    | some token =>
      rw [serve, Request.emission, Scope.resolve]
      obtain ⟨name, optional⟩ := splitOptional token
      cases optional with
      | false => exact resolver.resolvePart_eq_after name token
      | true =>
        simp only [↓reduceIte, resolvePart_eq_after]
        exact (resolver.after_map _ (· ++ absentAlternative)).symm

end Serve

end Resolver

/-- A request fails and records nothing, or it has an expression and records the built-in that is an
element, if there is one. -/
theorem Request.emission_cases (scope : Scope) (request : Request) :
    (∃ fault, request.emission scope = ⟨.error fault, ∅⟩) ∨
      ∃ expression element, request.emission scope = ⟨.ok expression, .ofElement element⟩ := by
  have yielded (element token expression : String) :
      (∃ fault, scope.yield [.refer element token] expression = ⟨.error fault, ∅⟩) ∨
        ∃ last recorded, scope.yield [.refer element token] expression =
          ⟨.ok last, .ofElement recorded⟩ := by
    cases accepted : scope.accepts element with
    | true => exact .inr ⟨_, _, Scope.yield_refer_of_accepts accepted _⟩
    | false => exact .inl ⟨_, Scope.yield_refer_of_not_accepts accepted _⟩
  cases request with
  | resolve token =>
    cases token with
    | none => exact .inl ⟨_, rfl⟩
    | some token =>
      rw [emission, Scope.resolve_eq]
      exact yielded _ _ _
  | resolveName name =>
    cases name with
    | none => exact .inl ⟨_, rfl⟩
    | some name =>
      rw [emission, Scope.resolveName_eq]
      exact yielded _ _ _

namespace Resolver

variable (resolver : Resolver)

/-- A request leaves the resolver as it is if it fails, and otherwise has it record one built-in or
none. -/
theorem serve_cases (request : Request) :
    (∃ fault, resolver.serve request = (.error fault, resolver)) ∨
      ∃ expression builtin, resolver.serve request = (.ok expression, resolver.note builtin) := by
  rw [serve_eq]
  rcases request.emission_cases resolver.scope with ⟨fault, failed⟩ | ⟨expression, element, found⟩
  · rw [failed]
    exact .inl ⟨fault, resolver.after_of_empty _⟩
  · rw [found]
    refine .inr ⟨expression, Builtin.ofName? element, ?_⟩
    rw [after, note, BuiltinSet.ofElement]
    cases Builtin.ofName? element with
    | none => simp
    | some builtin => rfl

/-! ## Runs -/

/-- A run answers each request with the outcome of its emission. -/
theorem run_answers (requests : List Request) :
    (resolver.run requests).1 =
      requests.map fun request => (request.emission resolver.scope).outcome := by
  induction requests generalizing resolver with
  | nil => rfl
  | cons request rest ih =>
    have later := ih (resolver.after (request.emission resolver.scope)).2
    simp only [run, serve_eq, List.map_cons, later]
    rfl

/-- A run keeps the scope. -/
theorem run_scope (requests : List Request) :
    (resolver.run requests).2.scope = resolver.scope := by
  induction requests generalizing resolver with
  | nil => rfl
  | cons request rest ih =>
    simp only [run, serve_eq]
    exact ih (resolver.after (request.emission resolver.scope)).2

/-- After a run the built-ins that were recorded before are recorded, and those that the emission of
one of the requests records. -/
theorem run_used (requests : List Request) (builtin : Builtin) :
    (resolver.run requests).2.used.contains builtin = true ↔
      resolver.used.contains builtin = true ∨
        ∃ request ∈ requests,
          (request.emission resolver.scope).used.contains builtin = true := by
  induction requests generalizing resolver with
  | nil => simp [run]
  | cons request rest ih =>
    have later := ih (resolver.after (request.emission resolver.scope)).2
    simp only [run, serve_eq, later]
    simp [after, or_assoc]

/-- A resolver resolves as its scope does, and it answers a request as a fresh resolver in its scope,
whatever it was asked before. A request that fails leaves the resolver as it is, and one that
succeeds has it record at most one built-in. What the resolver holds after a run is the same for
every order and every repetition of the requests. -/
theorem run_memoryless (resolver : Resolver) (requests : List Request) :
    (∀ request, resolver.serve request = resolver.after (request.emission resolver.scope)) ∧
      (resolver.run requests).1 =
        requests.map (fun request => (serve ⟨resolver.scope, ∅⟩ request).1) ∧
      (∀ before request,
        (∃ fault, (resolver.run before).2.serve request =
          (.error fault, (resolver.run before).2)) ∨
        ∃ expression builtin, (resolver.run before).2.serve request =
          (.ok expression, (resolver.run before).2.note builtin)) ∧
      ∀ others, (∀ request, request ∈ others ↔ request ∈ requests) →
        (resolver.run others).2 = (resolver.run requests).2 := by
  refine ⟨resolver.serve_eq, ?_, fun before request => serve_cases _ request, ?_⟩
  · have fresh (request : Request) : (serve ⟨resolver.scope, ∅⟩ request).1 =
        (request.emission resolver.scope).outcome := by
      rw [serve_eq]
      rfl
    simp only [run_answers, fresh]
  · intro others same
    have sameScope : (resolver.run others).2.scope = (resolver.run requests).2.scope := by
      rw [run_scope, run_scope]
    have sameUsed : (resolver.run others).2.used = (resolver.run requests).2.used := by
      apply BuiltinSet.ext
      intro builtin
      rw [Bool.eq_iff_iff, run_used, run_used]
      simp only [same]
    exact Resolver.ext sameScope sameUsed

/-- Requests of which two fail, one for a null and one for a type that is declared nowhere. -/
def mixedRequests : List Request := [
  .resolve (some "name[]?"), .resolve none, .resolve (some "permission[]?"),
  .resolveName (some "uint8"), .resolve (some "string[]"), .resolve (some "name")]

/-- Asking `mixedRequests` backwards and then once more records the same built-ins as asking them
once. -/
theorem run_memoryless_mixedRequests :
    (∀ request, request ∈ mixedRequests.reverse ++ mixedRequests ↔ request ∈ mixedRequests) ∧
      (run ⟨⟨.pascal, some ["transfer"]⟩, .singleton .bytes⟩
          (mixedRequests.reverse ++ mixedRequests)).2 =
        (run ⟨⟨.pascal, some ["transfer"]⟩, .singleton .bytes⟩ mixedRequests).2 ∧
      (run ⟨⟨.pascal, some ["transfer"]⟩, .singleton .bytes⟩ mixedRequests).1 = [
        .ok "Name[] | undefined", .error (.null .ending),
        .error (.unresolvable "permission" "permission[]?"), .ok "Uint8", .ok "string[]",
        .ok "Name"] := by
  have same (request : Request) :
      request ∈ mixedRequests.reverse ++ mixedRequests ↔ request ∈ mixedRequests := by
    rw [List.mem_append, List.mem_reverse, or_self]
  obtain ⟨-, -, -, unordered⟩ :=
    run_memoryless ⟨⟨.pascal, some ["transfer"]⟩, .singleton .bytes⟩ mixedRequests
  exact ⟨same, unordered _ same, by rfl⟩

end Resolver
end AbiTypings
