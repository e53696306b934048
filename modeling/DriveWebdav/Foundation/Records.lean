import DriveWebdav.Foundation.Trace

/-! # What a program leaves on record

Some of what a program meets leaves a note. However the program ends, as long as it has met nothing
that is not allowed, its outcome and its notes stand in a relation. The rules follow the program. -/

namespace DriveWebdav

namespace Program

variable {Memory Command Note : Type} {Answer : Command → Type} {Error α β : Type}

section

variable (note : Entry Memory Command Answer Error → Option Note)
  (allowed : Entry Memory Command Answer Error → Prop)

structure Records (program : Program Memory Command Answer Error α)
    (post : Except Error α → List Note → Prop) : Prop where
  ends : ∀ trace outcome, (∀ entry ∈ trace, allowed entry) → program.Follows trace outcome →
    post outcome (trace.filterMap note)

end

variable {note : Entry Memory Command Answer Error → Option Note}
  {allowed : Entry Memory Command Answer Error → Prop}
  {program : Program Memory Command Answer Error α}
  {middle weaker : Except Error α → List Note → Prop}

theorem Records.mono (records : Records note allowed program middle)
    (weakens : ∀ outcome notes, middle outcome notes → weaker outcome notes) :
    Records note allowed program weaker :=
  ⟨fun trace outcome all follows => weakens _ _ (records.ends trace outcome all follows)⟩

theorem Records.and (first : Records note allowed program middle)
    (second : Records note allowed program weaker) :
    Records note allowed program fun outcome notes => middle outcome notes ∧ weaker outcome notes :=
  ⟨fun trace outcome all follows =>
    ⟨first.ends trace outcome all follows, second.ends trace outcome all follows⟩⟩

theorem records_pure {value : α} (holds : middle (.ok value) []) :
    Records note allowed (pure value : Program Memory Command Answer Error α) middle := by
  constructor
  intro trace outcome _ follows
  cases follows
  exact holds

theorem records_throw {error : Error} (holds : middle (.error error) []) :
    Records note allowed (throw error : Program Memory Command Answer Error α) middle := by
  constructor
  intro trace outcome _ follows
  cases follows
  exact holds

theorem records_update {change : Memory → Memory}
    {resume : Memory → Program Memory Command Answer Error α}
    (silent : ∀ memory, note (.access memory) = none)
    (rest : ∀ memory, Records note allowed (resume memory) middle) :
    Records note allowed (.update change resume) middle := by
  constructor
  intro trace outcome all follows
  cases follows with
  | update memory follows =>
      rw [List.filterMap_cons_none (silent memory)]
      have later := fun entry member => all entry (List.mem_cons_of_mem _ member)
      exact (rest memory).ends _ _ later follows

theorem records_request {command : Command} {post : Except Error (Answer command) → List Note → Prop}
    (answered : ∀ answer, allowed (.exchange command answer) →
      post answer (note (.exchange command answer)).toList) :
    Records note allowed (request command : Program Memory Command Answer Error _) post := by
  constructor
  intro trace outcome all follows
  rw [follows_request follows] at all ⊢
  have post := answered outcome (all _ List.mem_cons_self)
  cases noted : note (.exchange command outcome) with
  | none =>
      rw [noted] at post
      rw [List.filterMap_cons_none noted]
      exact post
  | some written =>
      rw [noted] at post
      rw [List.filterMap_cons_some noted]
      exact post

theorem Records.andThen {next : Except Error α → Program Memory Command Answer Error β}
    {post : Except Error β → List Note → Prop} (first : Records note allowed program middle)
    (rest : ∀ outcome notes, middle outcome notes →
      Records note allowed (next outcome) fun last more => post last (notes ++ more)) :
    Records note allowed (program.andThen next) post := by
  constructor
  intro trace outcome all follows
  rcases follows_andThen.mp follows with ⟨before, after, reached, rfl, left, right⟩
  rw [List.filterMap_append]
  have early := fun entry member => all entry (List.mem_append_left after member)
  have late := fun entry member => all entry (List.mem_append_right before member)
  exact (rest reached _ (first.ends before reached early left)).ends after outcome late right

theorem Records.bind {next : α → Program Memory Command Answer Error β}
    {post : Except Error β → List Note → Prop} (first : Records note allowed program middle)
    (fails : ∀ error notes, middle (.error error) notes → post (.error error) notes)
    (rest : ∀ value notes, middle (.ok value) notes →
      Records note allowed (next value) fun last more => post last (notes ++ more)) :
    Records note allowed (program >>= next) post := by
  apply first.andThen
  intro outcome notes met
  cases outcome with
  | ok value => exact rest value notes met
  | error error =>
      apply records_throw
      rw [List.append_nil]
      exact fails error notes met

theorem Records.tryCatch {recover : Error → Program Memory Command Answer Error α}
    (first : Records note allowed program middle)
    (ends : ∀ value notes, middle (.ok value) notes → weaker (.ok value) notes)
    (rest : ∀ error notes, middle (.error error) notes →
      Records note allowed (recover error) fun last more => weaker last (notes ++ more)) :
    Records note allowed (MonadExcept.tryCatch program recover) weaker := by
  apply first.andThen
  intro outcome notes met
  cases outcome with
  | ok value =>
      apply records_pure
      rw [List.append_nil]
      exact ends value notes met
  | error error => exact rest error notes met

/-- What a last access to the memory leaves is what the program has left. -/
theorem Records.finallyModify {change : Memory → Memory}
    (silent : ∀ memory, note (.access memory) = none)
    (records : Records note allowed program middle) :
    Records note allowed (program.finallyDo (modify change)) middle := by
  apply records.andThen
  intro outcome notes met
  apply records_update silent
  intro memory
  cases outcome with
  | ok value =>
      apply records_pure
      rw [List.append_nil]
      exact met
  | error error =>
      apply records_throw
      rw [List.append_nil]
      exact met

end Program

end DriveWebdav
