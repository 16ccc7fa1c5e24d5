import RewardFormula.Proofs.Evaluation.Agreement

/-!
# Parts of a formula

A part of a formula can be exchanged for another of the same value. The rest of
the formula is a context, that is a formula that lacks one expression.
-/

namespace RewardFormula

mutual

/-- An expression that lacks one of its parts. -/
inductive ExprContext where
  | hole
  | deref (base : ExprContext) (field : String)
  | unary (op : UnaryOp) (inner : ExprContext)
  | binaryLeft (op : BinaryOp) (left : ExprContext) (right : Expr)
  | binaryRight (op : BinaryOp) (left : Expr) (right : ExprContext)
  | call (name : String) (before : List Expr) (argument : ExprContext) (after : List Expr)
  | test (condition : ConditionContext) (accepted rejected : Expr)
  | accepted (condition : Condition) (accepted : ExprContext) (rejected : Expr)
  | rejected (condition : Condition) (accepted : Expr) (rejected : ExprContext)
  | loopBase (element : String) (base : ExprContext) (exclusion : Option Expr)
      (body : List Assignment) (result : String)
  | loopExclusion (element : String) (base : Expr) (exclusion : ExprContext)
      (body : List Assignment) (result : String)
  | loopBody (element : String) (base : Expr) (exclusion : Option Expr)
      (before : List Assignment) (name : String) (value : ExprContext) (after : List Assignment)
      (result : String)

/-- A condition that lacks an expression. -/
inductive ConditionContext where
  | compareLeft (op : Comparison) (left : ExprContext) (right : Expr)
  | compareRight (op : Comparison) (left : Expr) (right : ExprContext)
  | logicalLeft (op : LogicalOp) (left : ConditionContext) (right : Condition)
  | logicalRight (op : LogicalOp) (left : Condition) (right : ConditionContext)

end

/-- A formula that lacks an expression. -/
inductive FormulaContext where
  | assignments (before : List Assignment) (name : String) (value : ExprContext)
      (after : List Assignment)
  | function (name : String) (parameters : List String) (body : ExprContext)

mutual

def ExprContext.fill (expr : Expr) : ExprContext → Expr
  | .hole => expr
  | .deref base field => .deref (base.fill expr) field
  | .unary op inner => .unary op (inner.fill expr)
  | .binaryLeft op left right => .binary op (left.fill expr) right
  | .binaryRight op left right => .binary op left (right.fill expr)
  | .call name before argument after => .call name (before ++ argument.fill expr :: after)
  | .test condition accepted rejected => .ternary (condition.fill expr) accepted rejected
  | .accepted condition accepted rejected => .ternary condition (accepted.fill expr) rejected
  | .rejected condition accepted rejected => .ternary condition accepted (rejected.fill expr)
  | .loopBase element base exclusion body result =>
    .loop element (base.fill expr) exclusion body result
  | .loopExclusion element base exclusion body result =>
    .loop element base (some (exclusion.fill expr)) body result
  | .loopBody element base exclusion before name value after result =>
    .loop element base exclusion (before ++ .assign name (value.fill expr) :: after) result
termination_by structural context => context

def ConditionContext.fill (expr : Expr) : ConditionContext → Condition
  | .compareLeft op left right => .compare op (left.fill expr) right
  | .compareRight op left right => .compare op left (right.fill expr)
  | .logicalLeft op left right => .logical op (left.fill expr) right
  | .logicalRight op left right => .logical op left (right.fill expr)
termination_by structural context => context

end

def FormulaContext.fill (expr : Expr) : FormulaContext → Formula
  | .assignments before name value after =>
    .assignments (before ++ .assign name (value.fill expr) :: after)
  | .function name parameters body => .function name parameters (body.fill expr)

theorem Expr.allVariables_append (first second : List Expr) :
    Expr.allVariables (first ++ second) = Expr.allVariables first ++ Expr.allVariables second := by
  induction first with
  | nil =>
      rfl
  | cons head rest inductionHypothesis =>
      simp only [List.cons_append, Expr.allVariables, inductionHypothesis, List.append_assoc]

theorem Assignment.allVariables_append (first second : List Assignment) :
    Assignment.allVariables (first ++ second) =
      Assignment.allVariables first ++ Assignment.allVariables second := by
  induction first with
  | nil =>
      rfl
  | cons head rest inductionHypothesis =>
      simp only [List.cons_append, Assignment.allVariables, inductionHypothesis,
        List.append_assoc]

section Variables

variable {expr : Expr} {name : String}

mutual

theorem ExprContext.mem_variables (member : name ∈ expr.variables) (context : ExprContext) :
    name ∈ (context.fill expr).variables := by
  match context with
  | .hole =>
      exact member
  | .deref base _ =>
      exact base.mem_variables member
  | .unary _ inner =>
      exact inner.mem_variables member
  | .binaryLeft _ left _ =>
      exact List.mem_append_left _ (left.mem_variables member)
  | .binaryRight _ _ right =>
      exact List.mem_append_right _ (right.mem_variables member)
  | .call _ before argument after =>
      have inner := argument.mem_variables member
      simp [ExprContext.fill, Expr.variables, Expr.allVariables_append, Expr.allVariables, inner]
  | .test condition _ _ =>
      exact List.mem_append_left _ (condition.mem_variables member)
  | .accepted _ accepted _ =>
      exact List.mem_append_right _ (List.mem_append_left _ (accepted.mem_variables member))
  | .rejected _ _ rejected =>
      exact List.mem_append_right _ (List.mem_append_right _ (rejected.mem_variables member))
  | .loopBase _ base exclusion _ _ =>
      have inner := base.mem_variables member
      cases exclusion <;> simp [ExprContext.fill, Expr.variables, inner]
  | .loopExclusion _ _ exclusion _ _ =>
      have inner := exclusion.mem_variables member
      simp [ExprContext.fill, Expr.variables, inner]
  | .loopBody _ _ exclusion _ _ value _ _ =>
      have inner := value.mem_variables member
      cases exclusion <;>
        simp [ExprContext.fill, Expr.variables, Assignment.allVariables_append,
          Assignment.allVariables, Assignment.variables, inner]
termination_by structural context

theorem ConditionContext.mem_variables (member : name ∈ expr.variables)
    (context : ConditionContext) : name ∈ (context.fill expr).variables := by
  match context with
  | .compareLeft _ left _ =>
      exact List.mem_append_left _ (left.mem_variables member)
  | .compareRight _ _ right =>
      exact List.mem_append_right _ (right.mem_variables member)
  | .logicalLeft _ left _ =>
      exact List.mem_append_left _ (left.mem_variables member)
  | .logicalRight _ _ right =>
      exact List.mem_append_right _ (right.mem_variables member)
termination_by structural context

end

theorem FormulaContext.mem_variables (member : name ∈ expr.variables) (context : FormulaContext) :
    name ∈ (context.fill expr).variables := by
  cases context with
  | assignments before target value after =>
      have inner := ExprContext.mem_variables member value
      simp [FormulaContext.fill, Formula.variables, Assignment.allVariables_append,
        Assignment.allVariables, Assignment.variables, inner]
  | function target parameters body =>
      exact ExprContext.mem_variables member body

end Variables

section Exchange

variable {G : Game} {registry : Registry G} {state : G.State} {expr expr' : Expr}

theorem evalNumbers_congr (same : evalValue registry state expr = evalValue registry state expr')
    (before after : List Expr) :
    evalNumbers registry state (before ++ expr :: after) =
      evalNumbers registry state (before ++ expr' :: after) := by
  funext progress
  induction before generalizing progress with
  | nil =>
      simp only [List.nil_append, evalNumbers, same]
  | cons first rest inductionHypothesis =>
      simp only [List.cons_append, evalNumbers, inductionHypothesis]

theorem evalAssignment_congr
    (same : evalValue registry state expr = evalValue registry state expr') (name : String) :
    evalAssignment registry state (.assign name expr) =
      evalAssignment registry state (.assign name expr') := by
  funext progress
  simp only [evalAssignment, same]

theorem runBody_congr (same : evalValue registry state expr = evalValue registry state expr')
    (before : List Assignment) (name : String) (after : List Assignment) :
    runBody registry state (before ++ .assign name expr :: after) =
      runBody registry state (before ++ .assign name expr' :: after) := by
  funext progress
  induction before generalizing progress with
  | nil =>
      simp only [List.nil_append, runBody, evalAssignment_congr same]
  | cons first rest inductionHypothesis =>
      simp only [List.cons_append, runBody, inductionHypothesis]

theorem evalAssignments_congr
    (same : evalValue registry state expr = evalValue registry state expr')
    (before : List Assignment) (name : String) (after : List Assignment) :
    evalAssignments registry state (before ++ .assign name expr :: after) =
      evalAssignments registry state (before ++ .assign name expr' :: after) := by
  funext progress
  simp only [evalAssignments, List.foldl_append, List.foldl_cons, evalAssignment_congr same]

mutual

theorem ExprContext.evalValue_fill
    (same : evalValue registry state expr = evalValue registry state expr')
    (context : ExprContext) :
    evalValue registry state (context.fill expr) =
      evalValue registry state (context.fill expr') := by
  match context with
  | .hole =>
      exact same
  | .deref base _ =>
      funext progress
      simp only [ExprContext.fill, evalValue, base.evalValue_fill same]
  | .unary _ inner =>
      funext progress
      simp only [ExprContext.fill, evalValue, inner.evalValue_fill same]
  | .binaryLeft _ left _ =>
      funext progress
      simp only [ExprContext.fill, evalValue, left.evalValue_fill same]
  | .binaryRight _ _ right =>
      funext progress
      simp only [ExprContext.fill, evalValue, right.evalValue_fill same]
  | .call _ before argument after =>
      funext progress
      simp only [ExprContext.fill, evalValue, List.length_append, List.length_cons,
        evalNumbers_congr (argument.evalValue_fill same) before after]
  | .test condition _ _ =>
      funext progress
      simp only [ExprContext.fill, evalValue, condition.evalCondition_fill same]
  | .accepted _ accepted _ =>
      funext progress
      simp only [ExprContext.fill, evalValue, accepted.evalValue_fill same]
  | .rejected _ _ rejected =>
      funext progress
      simp only [ExprContext.fill, evalValue, rejected.evalValue_fill same]
  | .loopBase _ base exclusion _ _ =>
      funext progress
      cases exclusion <;> simp only [ExprContext.fill, evalValue, base.evalValue_fill same]
  | .loopExclusion _ _ exclusion _ _ =>
      funext progress
      simp only [ExprContext.fill, evalValue, exclusion.evalValue_fill same]
  | .loopBody _ _ exclusion before name value after _ =>
      have sameBody := runBody_congr (value.evalValue_fill same) before name after
      funext progress
      cases exclusion <;> simp only [ExprContext.fill, evalValue, sameBody]
termination_by structural context

theorem ConditionContext.evalCondition_fill
    (same : evalValue registry state expr = evalValue registry state expr')
    (context : ConditionContext) :
    evalCondition registry state (context.fill expr) =
      evalCondition registry state (context.fill expr') := by
  match context with
  | .compareLeft _ left _ =>
      funext progress
      simp only [ConditionContext.fill, evalCondition, left.evalValue_fill same]
  | .compareRight _ _ right =>
      funext progress
      simp only [ConditionContext.fill, evalCondition, right.evalValue_fill same]
  | .logicalLeft _ left _ =>
      funext progress
      simp only [ConditionContext.fill, evalCondition, left.evalCondition_fill same]
  | .logicalRight _ _ right =>
      funext progress
      simp only [ConditionContext.fill, evalCondition, right.evalCondition_fill same]
termination_by structural context

end

/-- An evaluation of assignments depends on what they do and on the name that is
assigned last. -/
theorem evaluateWith_congr {items items' : List Assignment}
    (sameLast : items.getLast?.map Assignment.name = items'.getLast?.map Assignment.name)
    (sameItems : evalAssignments registry state items = evalAssignments registry state items')
    (retention : Retention) (table : Variables G) :
    evaluateWith registry state retention (.assignments items) table =
      evaluateWith registry state retention (.assignments items') table := by
  simp only [evaluateWith, sameItems]
  cases last : items.getLast? with
  | none =>
      cases last' : items'.getLast? with
      | none =>
          rfl
      | some assignment' =>
          simp [last, last'] at sameLast
  | some assignment =>
      cases last' : items'.getLast? with
      | none =>
          simp [last, last'] at sameLast
      | some assignment' =>
          have sameName : assignment.name = assignment'.name := by
            simpa [last, last'] using sameLast
          simp only [sameName]

/-- A part of a formula may be exchanged for another of the same value. -/
theorem FormulaContext.evaluateWith_fill
    (same : evalValue registry state expr = evalValue registry state expr')
    (context : FormulaContext) (retention : Retention) (table : Variables G) :
    evaluateWith registry state retention (context.fill expr) table =
      evaluateWith registry state retention (context.fill expr') table := by
  cases context with
  | function name parameters body =>
      rfl
  | assignments before name value after =>
      apply evaluateWith_congr
      · cases last : after.getLast? <;>
          simp [List.getLast?_append, List.getLast?_cons, last, Assignment.name]
      · exact evalAssignments_congr (value.evalValue_fill same) before name after

end Exchange

end RewardFormula
