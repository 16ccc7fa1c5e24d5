import RewardFormula.Source.Reader

/-!
# When a reader succeeds and when it is refused

One law for each way to build a reader says when the built reader reads a value
and what it leaves, and one says when it is refused. The rules of the grammar
are taken apart by these laws only.
-/

namespace RewardFormula

namespace Reply

/-- The reply to a repetition whose first item was read before. -/
def prepend (value : α) : Reply (List α) → Reply (List α)
  | read values rest => read (value :: values) rest
  | refused fault => refused fault
  | broken fault => broken fault

theorem prepend_eq_read
    {value : α} {reply : Reply (List α)} {values : List α} {rest : List Char} :
    reply.prepend value = read values rest ↔
      ∃ others, values = value :: others ∧ reply = read others rest := by
  cases reply with
  | read others left =>
      simp only [prepend, read.injEq]
      constructor
      · rintro ⟨rfl, rfl⟩
        exact ⟨others, rfl, rfl, rfl⟩
      · rintro ⟨founds, rfl, rfl, rfl⟩
        exact ⟨rfl, rfl⟩
  | refused fault =>
      simp [prepend]
  | broken fault =>
      simp [prepend]

theorem prepend_eq_refused {value : α} {reply : Reply (List α)} {fault : Fault} :
    reply.prepend value = refused fault ↔ reply = refused fault := by
  cases reply <;> simp [prepend]

end Reply

namespace Reader

variable {α β : Type}

/-- The reader is refused at a source, so that another reading may be tried. -/
def Refuses (reader : Reader α) (source : List Char) : Prop :=
  ∃ fault, reader source = .refused fault

theorem not_refuses_of_read
    {reader : Reader α} {source rest : List Char} {value : α}
    (reading : reader source = .read value rest) :
    ¬ reader.Refuses source := by
  rintro ⟨fault, refusal⟩
  rw [reading] at refusal
  cases refusal

@[simp] theorem pure_eq_read
    {value result : α} {source rest : List Char} :
    (pure value : Reader α) source = .read result rest ↔ value = result ∧ source = rest := by
  simp [pure]

@[simp] theorem pure_refuses {value : α} {source : List Char} :
    ¬ (pure value : Reader α).Refuses source := by
  simp [pure, Refuses]

@[simp] theorem bind_eq_read
    {first : Reader α} {next : α → Reader β} {source rest : List Char} {result : β} :
    (first >>= next) source = .read result rest ↔
      ∃ value middle, first source = .read value middle ∧
        next value middle = .read result rest := by
  simp only [Bind.bind, bind]
  cases first source <;> simp [and_assoc]

@[simp] theorem bind_refuses
    {first : Reader α} {next : α → Reader β} {source : List Char} :
    (first >>= next).Refuses source ↔
      first.Refuses source ∨
        ∃ value middle, first source = .read value middle ∧ (next value).Refuses middle := by
  simp only [Bind.bind, bind, Refuses]
  cases first source <;> simp [and_assoc]

@[simp] theorem map_eq_read
    {f : α → β} {reader : Reader α} {source rest : List Char} {result : β} :
    (f <$> reader) source = .read result rest ↔
      ∃ value, reader source = .read value rest ∧ f value = result := by
  change (reader >>= fun value => pure (f value)) source = _ ↔ _
  rw [bind_eq_read]
  constructor
  · rintro ⟨value, middle, reading, same⟩
    obtain ⟨rfl, rfl⟩ := pure_eq_read.1 same
    exact ⟨value, reading, rfl⟩
  · rintro ⟨value, reading, rfl⟩
    exact ⟨value, rest, reading, rfl⟩

@[simp] theorem map_refuses
    {f : α → β} {reader : Reader α} {source : List Char} :
    (f <$> reader).Refuses source ↔ reader.Refuses source := by
  change (reader >>= fun value => pure (f value)).Refuses source ↔ _
  simp

@[simp] theorem orElse_eq_read
    {first second : Reader α} {source rest : List Char} {result : α} :
    (first <|> second) source = .read result rest ↔
      first source = .read result rest ∨
        first.Refuses source ∧ second source = .read result rest := by
  simp only [HOrElse.hOrElse, OrElse.orElse, orElse, Refuses]
  cases first source <;> simp

@[simp] theorem orElse_refuses
    {first second : Reader α} {source : List Char} :
    (first <|> second).Refuses source ↔ first.Refuses source ∧ second.Refuses source := by
  simp only [HOrElse.hOrElse, OrElse.orElse, orElse, Refuses]
  cases first source <;> simp

@[simp] theorem refuse_ne_read
    {cause : Cause} {source rest : List Char} {value : α} :
    refuse cause source ≠ .read value rest := by
  simp [refuse]

@[simp] theorem refuse_refuses {cause : Cause} {source : List Char} :
    (refuse cause : Reader α).Refuses source := by
  simp [refuse, Refuses]

@[simp] theorem demand_eq_read
    {value : Except Fault α} {source rest : List Char} {result : α} :
    demand value source = .read result rest ↔ value = .ok result ∧ source = rest := by
  cases value <;> simp [demand]

@[simp] theorem committed_eq_read
    {reader : Reader α} {source rest : List Char} {value : α} :
    committed reader source = .read value rest ↔ reader source = .read value rest := by
  simp only [committed]
  cases reader source <;> simp

@[simp] theorem optional_eq_read
    {reader : Reader α} {source rest : List Char} {value? : Option α} :
    optional reader source = .read value? rest ↔
      (∃ value, value? = some value ∧ reader source = .read value rest) ∨
        value? = none ∧ rest = source ∧ reader.Refuses source := by
  simp only [optional, Refuses]
  cases reader source with
  | read found left =>
      simp only [Reply.read.injEq, reduceCtorEq, exists_false, and_false, or_false]
      constructor
      · rintro ⟨rfl, rfl⟩
        exact ⟨found, rfl, rfl, rfl⟩
      · rintro ⟨value, rfl, rfl, rfl⟩
        exact ⟨rfl, rfl⟩
  | refused fault =>
      simp [eq_comm]
  | broken fault =>
      simp

@[simp] theorem within_eq_read
    {construct : Construct} {reader : Reader α} {source rest : List Char} {value : α} :
    within construct reader source = .read value rest ↔ reader source = .read value rest := by
  simp only [within]
  cases reader source <;> simp

@[simp] theorem within_refuses
    {construct : Construct} {reader : Reader α} {source : List Char} :
    (within construct reader).Refuses source ↔ reader.Refuses source := by
  simp only [within, Refuses]
  cases reader source <;> simp

@[simp] theorem spanned_eq_read
    {reader : Reader α} {source rest : List Char} {value : Spanned α} :
    spanned reader source = .read value rest ↔
      reader source = .read value.value rest ∧ value = ⟨value.value, source, rest⟩ := by
  simp only [spanned]
  cases reader source with
  | read found left =>
      simp only [Reply.read.injEq]
      constructor
      · rintro ⟨rfl, rfl⟩
        exact ⟨⟨rfl, rfl⟩, rfl⟩
      · rintro ⟨⟨rfl, rfl⟩, same⟩
        exact ⟨same.symm, rfl⟩
  | refused fault =>
      simp
  | broken fault =>
      simp

@[simp] theorem spanned_refuses {reader : Reader α} {source : List Char} :
    (spanned reader).Refuses source ↔ reader.Refuses source := by
  simp only [spanned, Refuses]
  cases reader source <;> simp

/-- What the reader leaves is an ending of the source. -/
def Trims (reader : Reader α) : Prop :=
  ∀ ⦃source rest : List Char⦄ ⦃value : α⦄, reader source = .read value rest → rest <:+ source

/-- What the reader leaves is a shorter ending of the source. -/
def Consumes (reader : Reader α) : Prop :=
  ∀ ⦃source rest : List Char⦄ ⦃value : α⦄,
    reader source = .read value rest → rest <:+ source ∧ rest.length < source.length

theorem Consumes.trims {reader : Reader α} (consumes : reader.Consumes) : reader.Trims :=
  fun _ _ _ reading => (consumes reading).1

section Repetition

variable {item : Reader α} (consumes : item.Consumes)

include consumes

/-- Any budget above the length of the source does for a repetition. -/
theorem manyWithin_budget_irrelevant :
    ∀ {budget budget' : Nat} {source : List Char},
      source.length < budget → source.length < budget' →
        manyWithin item budget source = manyWithin item budget' source
  | 0, _, _, enough, _ => absurd enough (Nat.not_lt_zero _)
  | _, 0, _, _, enough => absurd enough (Nat.not_lt_zero _)
  | budget + 1, budget' + 1, source, enough, enough' => by
      simp only [manyWithin]
      cases reading : item source with
      | refused fault =>
          rfl
      | broken fault =>
          rfl
      | read value rest =>
          have shorter := (consumes reading).2
          have same : manyWithin item budget rest = manyWithin item budget' rest :=
            manyWithin_budget_irrelevant (by omega) (by omega)
          simp only [same]

/-- A repetition reads an item and goes on, until an item is refused. -/
theorem many_eq (source : List Char) :
    many item source =
      match item source with
      | .refused _ => .read [] source
      | .broken fault => .broken fault
      | .read value rest => (many item rest).prepend value := by
  simp only [many, manyWithin]
  cases reading : item source with
  | refused fault =>
      rfl
  | broken fault =>
      rfl
  | read value rest =>
      have shorter := (consumes reading).2
      have same : manyWithin item source.length rest = manyWithin item (rest.length + 1) rest :=
        manyWithin_budget_irrelevant consumes shorter (Nat.lt_succ_self rest.length)
      simp only [shorter, if_true, same]
      rfl

theorem many_eq_read_nil {source rest : List Char} :
    many item source = .read [] rest ↔ source = rest ∧ item.Refuses source := by
  rw [many_eq consumes, Refuses]
  cases item source <;> simp [Reply.prepend_eq_read]

theorem many_eq_read_cons {source rest : List Char} {value : α} {values : List α} :
    many item source = .read (value :: values) rest ↔
      ∃ middle, item source = .read value middle ∧ many item middle = .read values rest := by
  rw [many_eq consumes]
  cases item source with
  | read found left =>
      simp only [Reply.prepend_eq_read, List.cons.injEq, Reply.read.injEq]
      constructor
      · rintro ⟨founds, ⟨rfl, rfl⟩, reading⟩
        exact ⟨left, ⟨rfl, rfl⟩, reading⟩
      · rintro ⟨middle, ⟨rfl, rfl⟩, reading⟩
        exact ⟨values, ⟨rfl, rfl⟩, reading⟩
  | refused fault =>
      simp
  | broken fault =>
      simp

/-- The refusal of an item only ends a repetition. -/
theorem many_not_refuses (source : List Char) : ¬ (many item).Refuses source := by
  rw [Refuses, many_eq consumes]
  cases reading : item source with
  | refused fault =>
      simp
  | broken fault =>
      simp
  | read value rest =>
      have shorter := (consumes reading).2
      rintro ⟨fault, refusal⟩
      exact many_not_refuses rest ⟨fault, Reply.prepend_eq_refused.1 refusal⟩
termination_by source.length

theorem many_trims : (many item).Trims := by
  intro source rest values reading
  induction values generalizing source with
  | nil =>
      obtain ⟨rfl, -⟩ := (many_eq_read_nil consumes).1 reading
      exact List.suffix_refl source
  | cons value values inductionHypothesis =>
      obtain ⟨middle, first, remaining⟩ := (many_eq_read_cons consumes).1 reading
      exact (inductionHypothesis remaining).trans (consumes first).1

end Repetition

end Reader

end RewardFormula
