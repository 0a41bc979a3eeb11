/-
# What the agent does without a confirmation

The registry of tools says which of them change state and so need a confirmation:
`create_checkout`, `request_authorization` and `create_payment` (`needsConfirmation`).  The gate
of the loop knows two of the three, and a request for an authorization is executed at once;
where the policy allows the amount, the authorization it creates is approved.

`ComesTo` are the tools that the loop comes to, each with the state it comes to it in.  What an
unconfirmed agent does is harmless exactly when none of them is an authorization request
that passes validation for a known buyer (`unconfirmed_iff`).
-/

import AgenticCommerce.Agent.Loop
import AgenticCommerce.Lifecycle.Laws

namespace AgenticCommerce
namespace Agent

open Relational Work

/-- The tools the registry marks as state-changing. -/
def needsConfirmation : List ToolName := [.createCheckout, .requestAuthorization, .createPayment]

/-- No call that was made changes the state of commerce. -/
def Harmless (s : Run) : Prop := ∀ call ∈ s.calls, ¬call.ChangesCommerce

/-- No tool was begun after one that needs a confirmation. -/
def StopsAtFirst (s : Run) : Prop :=
  ∀ toolName ∈ s.begun.dropLast, ∀ tool ∈ needsConfirmation, toolName ≠ tool.value

/-- What is promised of an agent without a confirmation. -/
def Bounded (s : Run) : Prop := Harmless s ∧ s.begun.length ≤ maxSteps ∧ StopsAtFirst s

/-- A request for an authorization that nothing holds up: its arguments are valid and there is
a buyer. -/
def Ungated (screening : Screening) (buyerId : Option String) (tool : PlannedTool) : Prop :=
  tool.1 = ToolName.requestAuthorization.value ∧ (given buyerId).isSome = true ∧
    ∃ args, validateToolArguments screening tool.1 tool.2 = .ok args

/-! ### The calls of a tool -/

section

variable {runtime : Runtime} {merchantId : String} {buyerId : Option String}
  {P : FacadeCall → Prop} {s t : Run}

/-- The calls made in between satisfy `P`, and no tool was begun. -/
def Made (P : FacadeCall → Prop) (s t : Run) : Prop :=
  (∃ made, t.calls = s.calls ++ made ∧ ∀ call ∈ made, P call) ∧ t.begun = s.begun

instance : IsPreorder Run (Made P) where
  refl s := ⟨⟨[], (List.append_nil _).symm, nofun⟩, rfl⟩
  trans s t u h h' := by
    obtain ⟨⟨made, hcalls, hmade⟩, hbegun⟩ := h
    obtain ⟨⟨made', hcalls', hmade'⟩, hbegun'⟩ := h'
    refine ⟨⟨made ++ made', by rw [hcalls', hcalls, List.append_assoc], fun call hcall => ?_⟩,
      hbegun'.trans hbegun⟩
    rcases List.mem_append.1 hcall with hcall | hcall
    · exact hmade call hcall
    · exact hmade' call hcall

/-- Whatever happened, the call was made, and nothing else was. -/
theorem invoke_final (call : FacadeCall) :
    (final (invoke runtime call) s).calls = s.calls ++ [call] ∧
      (final (invoke runtime call) s).begun = s.begun := by
  unfold final invoke
  cases serve (runtime.env s.calls.length) runtime.seed call s.world <;> exact ⟨rfl, rfl⟩

/-- A computation whose last state is related to its first moves along the relation. -/
theorem moves_of_final {α : Type} {R : Run → Run → Prop} {m : AgentOp α}
    (h : ∀ s, R s (final m s)) : Moves R m := by
  constructor
  · intro s a t hm
    have hfinal := h s
    rwa [final, hm] at hfinal
  · intro s e t hm
    have hfinal := h s
    rwa [final, hm] at hfinal

theorem final_of_moves {α : Type} {R : Run → Run → Prop} {m : AgentOp α} (h : MovesAt R s m) :
    R s (final m s) := by
  rcases final_cases m s with ⟨a, ha⟩ | ⟨e, he⟩
  · exact h.1 a _ ha
  · exact h.2 e _ he

theorem invoke_made {call : FacadeCall} (h : P call) : Moves (Made P) (invoke runtime call) := by
  refine moves_of_final fun s => ⟨⟨[call], (invoke_final call).1, fun c hc => ?_⟩,
    (invoke_final call).2⟩
  obtain rfl := List.mem_singleton.1 hc
  exact h

theorem recordSuppressed_made (h : ∀ call, call.stateChanging = false → P call)
    (event : AgentEvent) : Moves (Made P) (recordSuppressed runtime event) :=
  (invoke_made (h _ rfl)).attempt.bind fun _ => .pure

/-- **A tool makes the calls it is routed to**: reading ones, unless it is one of the three. -/
theorem route_made {args : ToolArgumentsV1} (h : ∀ call, call.stateChanging = false → P call)
    (hthree : args.toolName ∈ needsConfirmation → ∀ call, P call) :
    Moves (Made P) (route runtime args merchantId buyerId) := by
  have hread : ∀ (call : FacadeCall), call.stateChanging = false →
      Moves (Made P) (invoke runtime call) := fun call hcall => invoke_made (h call hcall)
  unfold route
  split
  · exact (hread _ rfl).bind fun _ => .pure
  · split
    · exact (hread _ rfl).bind fun _ => .pure
    · exact (hread _ rfl).bind fun _ => .pure
  · split
    · exact (hread _ rfl).bind fun _ => .pure
    · exact (hread _ rfl).bind fun _ => .pure
  · exact (hread _ rfl).bind fun _ => .pure
  · exact Moves.ask.bind fun _ => (hread _ rfl).bind fun _ => .pure
  · exact Moves.ask.bind fun _ => (hread _ rfl).bind fun _ => .pure
  · exact Moves.ask.bind fun _ => (hread _ rfl).bind fun _ => .pure
  · exact Moves.ask.bind fun _ => (hread _ rfl).bind fun _ => .pure
  · rename_i htool
    have hany := hthree (by rw [htool]; decide)
    exact Moves.ask.bind fun _ => (invoke_made (hany _)).bind fun _ => .pure
  · rename_i htool
    have hany := hthree (by rw [htool]; decide)
    exact Moves.ask.bind fun _ => (invoke_made (hany _)).bind fun _ => .pure
  · rename_i htool
    have hany := hthree (by rw [htool]; decide)
    exact Moves.ask.bind fun _ => (invoke_made (hany _)).bind fun _ => .pure
  · exact Moves.ask.bind fun _ => .pure
  · exact Moves.ask.bind fun _ => .pure
  · exact Moves.ask.bind fun _ => .pure

/-! ### One tool -/

/-- Step 1 of `execute_tool`: what is refused does nothing. -/
theorem executeTool_of_invalid {toolName : String} {arguments : List (String × Json)} {e : Failure}
    (h : validateToolArguments runtime.screening toolName arguments = .error e) :
    executeTool runtime toolName arguments merchantId buyerId false s = .error e s := by
  unfold executeTool
  exact bind_of_error (outcome_eq_error.2 ⟨h, rfl⟩)

/-- Step 2: the gate. -/
theorem executeTool_of_gated {toolName : String} {arguments : List (String × Json)}
    {args : ToolArgumentsV1} (h : validateToolArguments runtime.screening toolName arguments = .ok args)
    (hgated : args.toolName ∈ stateChangingTools) :
    executeTool runtime toolName arguments merchantId buyerId false s =
      (do recordSuppressed runtime (blockedEvent toolName merchantId buyerId)
          pure (ToolExecutionResult.mk toolName args .confirmationRequired true true) :
        AgentOp ToolExecutionResult) s := by
  unfold executeTool
  refine (bind_of_ok (outcome_eq_ok.2 ⟨h, rfl⟩)).trans ?_
  rw [decide_eq_true hgated]
  rfl

/-- Step 3: everything else is routed. -/
theorem executeTool_of_routed {toolName : String} {arguments : List (String × Json)}
    {args : ToolArgumentsV1} (h : validateToolArguments runtime.screening toolName arguments = .ok args)
    (hrouted : args.toolName ∉ stateChangingTools) :
    executeTool runtime toolName arguments merchantId buyerId false s =
      (do let result ← route runtime args merchantId buyerId
          pure (ToolExecutionResult.mk toolName args result false false) :
        AgentOp ToolExecutionResult) s := by
  unfold executeTool
  refine (bind_of_ok (outcome_eq_ok.2 ⟨h, rfl⟩)).trans ?_
  rw [decide_eq_false hrouted]
  rfl

/-- Without a buyer no authorization is asked for. -/
theorem route_of_no_buyer {args : ToolArgumentsV1} (htool : args.toolName = .requestAuthorization)
    (hbuyer : given buyerId = none) : Moves (Made P) (route runtime args merchantId buyerId) := by
  unfold route
  rw [htool]
  refine Moves.of_at fun s => ?_
  refine MovesAt.bind (Moves.ask.at s) fun buyer t h => ?_
  obtain ⟨hsome, -⟩ := outcome_eq_ok.1 h
  rw [hbuyer] at hsome
  exact nomatch hsome

/-- **A tool without a confirmation only reads**, unless it is an ungated request. -/
theorem executeTool_made {toolName : String} {arguments : List (String × Json)}
    (h : ∀ call, call.stateChanging = false → P call)
    (hungated : Ungated runtime.screening buyerId (toolName, arguments) → ∀ call, P call) :
    Moves (Made P) (executeTool runtime toolName arguments merchantId buyerId false) := by
  refine Moves.of_at fun s => ?_
  cases hvalid : validateToolArguments runtime.screening toolName arguments with
  | error e =>
      constructor
      · intro a t hrun
        rw [executeTool_of_invalid hvalid] at hrun
        exact nomatch hrun
      · intro e' t hrun
        rw [executeTool_of_invalid hvalid] at hrun
        obtain ⟨-, rfl⟩ := EStateM.Result.error.inj hrun
        exact refl_of (Made P) s
  | ok args =>
      by_cases hgated : args.toolName ∈ stateChangingTools
      · have hrecord : Moves (Made P)
            (recordSuppressed runtime (blockedEvent toolName merchantId buyerId)) :=
          recordSuppressed_made h _
        have hmoves := (hrecord.bind fun _ =>
          Moves.pure (a := ToolExecutionResult.mk toolName args .confirmationRequired true true)).at s
        unfold MovesAt ReturnsAt at hmoves ⊢
        rwa [executeTool_of_gated hvalid hgated]
      · have hroute : Moves (Made P) (route runtime args merchantId buyerId) := by
          by_cases hthree : args.toolName = .requestAuthorization
          · cases hbuyer : given buyerId with
            | none => exact route_of_no_buyer hthree hbuyer
            | some buyer =>
                have hname := ToolName.ofString?_eq_some.1 (validateToolArguments_ok hvalid)
                refine route_made h fun _ => hungated ⟨?_, ?_, args, hvalid⟩
                · rw [← hname, hthree]
                · rw [hbuyer]
                  rfl
          · refine route_made h fun hmem => ?_
            simp only [needsConfirmation, stateChangingTools, List.mem_cons, List.not_mem_nil,
              or_false] at hmem hgated
            tauto
        have hmoves := (hroute.bind fun result =>
          Moves.pure (a := ToolExecutionResult.mk toolName args result false false)).at s
        unfold MovesAt ReturnsAt at hmoves ⊢
        rwa [executeTool_of_routed hvalid hgated]

/-- The tool that a text spells is the one its arguments carry. -/
theorem toolName_of_valid {arguments : List (String × Json)} {args : ToolArgumentsV1}
    {tool : ToolName} (h : validateToolArguments runtime.screening tool.value arguments = .ok args) :
    args.toolName = tool := by
  have hname := validateToolArguments_ok h
  rw [ToolName.ofString?_eq_some.2 rfl] at hname
  exact (Option.some.inj hname).symm

/-- **An ungated request is made.** -/
theorem executeTool_of_ungated {tool : PlannedTool}
    (h : Ungated runtime.screening buyerId tool) :
    ∃ call ∈ (final (executeTool runtime tool.1 tool.2 merchantId buyerId false) s).calls,
      call.stateChanging = true := by
  obtain ⟨toolName, arguments⟩ := tool
  obtain ⟨hname, hbuyer, args, hvalid⟩ := h
  obtain ⟨buyer, hbuyer⟩ := Option.isSome_iff_exists.1 hbuyer
  dsimp only at hname hvalid ⊢
  subst hname
  have htool := toolName_of_valid hvalid
  have hrouted : args.toolName ∉ stateChangingTools := by
    rw [htool]
    decide
  rw [final, executeTool_of_routed hvalid hrouted, ← final, final_bind_pure, route, htool]
  have hrequired : requireBuyer buyerId "authorization" s = .ok buyer s := by
    unfold requireBuyer requireText
    rw [hbuyer]
    exact outcome_eq_ok.2 ⟨rfl, rfl⟩
  dsimp only
  rw [final_bind_of_ok hrequired, final_bind_pure, (invoke_final _).1]
  exact ⟨_, List.mem_append_right _ (List.mem_singleton.2 rfl), rfl⟩

/-- **A tool that needs a confirmation and ran without one was an ungated request.** -/
theorem ungated_of_unconfirmed {tool : ToolName} (htool : tool ∈ needsConfirmation)
    {arguments : List (String × Json)} {result : ToolExecutionResult}
    (hrun : executeTool runtime tool.value arguments merchantId buyerId false s = .ok result t)
    (hconfirmed : result.requiresConfirmation = false) :
    Ungated runtime.screening buyerId (tool.value, arguments) := by
  cases hvalid : validateToolArguments runtime.screening tool.value arguments with
  | error e =>
      rw [executeTool_of_invalid hvalid] at hrun
      cases hrun
  | ok args =>
      have hname := toolName_of_valid hvalid
      by_cases hgated : args.toolName ∈ stateChangingTools
      · rw [executeTool_of_gated hvalid hgated] at hrun
        obtain ⟨_, u, -, hpure⟩ := bind_eq_ok.1 hrun
        obtain ⟨rfl, -⟩ := pure_eq_ok.1 hpure
        cases hconfirmed
      · have hrequest : tool = .requestAuthorization := by
          rw [hname] at hgated
          simp only [needsConfirmation, stateChangingTools, List.mem_cons, List.not_mem_nil,
            or_false] at htool hgated
          tauto
        rw [executeTool_of_routed hvalid hgated, route, hname, hrequest] at hrun
        obtain ⟨_, u, hroute, -⟩ := bind_eq_ok.1 hrun
        obtain ⟨buyer, v, hbuyer, -⟩ := bind_eq_ok.1 hroute
        obtain ⟨hsome, -⟩ := outcome_eq_ok.1 hbuyer
        refine ⟨by rw [hrequest], ?_, args, hvalid⟩
        cases hgiven : given buyerId with
        | none =>
            rw [hgiven] at hsome
            cases hsome
        | some b => rfl

/-! ### The loop -/

/-- The loop comes to a planned tool, in the state it is then begun in. -/
inductive ComesTo (runtime : Runtime) (merchantId : String) (buyerId : Option String) :
    List PlannedTool → ℕ → Run → PlannedTool → Run → Prop
  | here {tool : PlannedTool} {rest : List PlannedTool} {stepCount : ℕ} {s : Run} :
      WithinLimits runtime stepCount →
      ComesTo runtime merchantId buyerId (tool :: rest) stepCount s tool
        { s with begun := s.begun ++ [tool.1] }
  | later {tool tool' : PlannedTool} {rest : List PlannedTool} {stepCount : ℕ} {s t u : Run}
      {result : ToolExecutionResult} :
      WithinLimits runtime stepCount →
      executeTool runtime tool.1 tool.2 merchantId buyerId false
        { s with begun := s.begun ++ [tool.1] } = .ok result t →
      result.requiresConfirmation = false →
      ComesTo runtime merchantId buyerId rest (stepCount + 1) t tool' u →
      ComesTo runtime merchantId buyerId (tool :: rest) stepCount s tool' u

/-- **One step of the loop**: where it ends, by how its tool ended. -/
theorem runTools_step {tool : PlannedTool} {rest : List PlannedTool} {stepCount : ℕ}
    {executed : List ToolExecutionResult} (h : WithinLimits runtime stepCount) :
    final (runTools runtime merchantId buyerId (tool :: rest) stepCount executed) s =
      match executeTool runtime tool.1 tool.2 merchantId buyerId false
          { s with begun := s.begun ++ [tool.1] } with
      | .error _ t => t
      | .ok result t =>
          if result.requiresConfirmation then t
          else final (runTools runtime merchantId buyerId rest (stepCount + 1)
            (executed ++ [result])) t := by
  obtain ⟨toolName, args⟩ := tool
  have hbegin : begin toolName s = .ok () { s with begun := s.begun ++ [toolName] } := rfl
  rw [runTools, if_neg (not_not.2 h), final_bind_of_ok hbegin]
  cases hrun : executeTool runtime toolName args merchantId buyerId false
      { s with begun := s.begun ++ [toolName] } with
  | error e t => rw [final_bind_of_error hrun]
  | ok result t =>
      rw [final_bind_of_ok hrun]
      dsimp only
      split
      · rfl
      · rfl

theorem runTools_of_late {tool : PlannedTool} {rest : List PlannedTool} {stepCount : ℕ}
    {executed : List ToolExecutionResult} (h : ¬WithinLimits runtime stepCount) :
    final (runTools runtime merchantId buyerId (tool :: rest) stepCount executed) s = s := by
  obtain ⟨toolName, args⟩ := tool
  rw [runTools, if_pos h]
  rfl

/-- **The calls of a loop are those of the tools it comes to.** -/
theorem runTools_made {plan : List PlannedTool} {stepCount : ℕ}
    (executed : List ToolExecutionResult)
    (h : ∀ tool t, ComesTo runtime merchantId buyerId plan stepCount s tool t →
      Made P t (final (executeTool runtime tool.1 tool.2 merchantId buyerId false) t)) :
    ∃ made, (final (runTools runtime merchantId buyerId plan stepCount executed) s).calls =
      s.calls ++ made ∧ ∀ call ∈ made, P call := by
  induction plan generalizing stepCount executed s with
  | nil => exact ⟨[], (List.append_nil _).symm, nofun⟩
  | cons tool rest ih =>
      by_cases hlimits : WithinLimits runtime stepCount
      · obtain ⟨⟨made, hcalls, hmade⟩, -⟩ := h tool _ (.here hlimits)
        rw [runTools_step hlimits]
        cases hrun : executeTool runtime tool.1 tool.2 merchantId buyerId false
            { s with begun := s.begun ++ [tool.1] } with
        | error e t =>
            rw [final, hrun] at hcalls
            exact ⟨made, hcalls, hmade⟩
        | ok result t =>
            rw [final, hrun] at hcalls
            dsimp only at hcalls ⊢
            by_cases hconfirm : result.requiresConfirmation = true
            · rw [if_pos hconfirm]
              exact ⟨made, hcalls, hmade⟩
            · rw [if_neg hconfirm]
              obtain ⟨made', hcalls', hmade'⟩ := ih (executed ++ [result]) fun tool' u hcomes =>
                h tool' u (.later hlimits hrun (Bool.not_eq_true _ ▸ hconfirm) hcomes)
              refine ⟨made ++ made', ?_, fun call hcall => ?_⟩
              · rw [hcalls', hcalls, List.append_assoc]
              · rcases List.mem_append.1 hcall with hcall | hcall
                · exact hmade call hcall
                · exact hmade' call hcall
      · rw [runTools_of_late hlimits]
        exact ⟨[], (List.append_nil _).symm, nofun⟩

/-- The calls of a tool the loop comes to stay made. -/
theorem calls_of_comesTo {plan : List PlannedTool} {stepCount : ℕ} {tool : PlannedTool}
    (h : ComesTo runtime merchantId buyerId plan stepCount s tool t)
    {executed : List ToolExecutionResult} {call : FacadeCall}
    (hcall : call ∈ (final (executeTool runtime tool.1 tool.2 merchantId buyerId false) t).calls) :
    call ∈ (final (runTools runtime merchantId buyerId plan stepCount executed) s).calls := by
  induction h generalizing executed with
  | @here tool rest stepCount s hlimits =>
      rw [runTools_step hlimits]
      cases hrun : executeTool runtime tool.1 tool.2 merchantId buyerId false
          { s with begun := s.begun ++ [tool.1] } with
      | error e t =>
          rw [final, hrun] at hcall
          exact hcall
      | ok result t =>
          rw [final, hrun] at hcall
          dsimp only at hcall ⊢
          split
          · exact hcall
          · have hany : ∀ tool' : PlannedTool, Moves (Made fun _ => True)
                (executeTool runtime tool'.1 tool'.2 merchantId buyerId false) := fun _ =>
              executeTool_made (fun _ _ => trivial) fun _ _ => trivial
            obtain ⟨made, hcalls, -⟩ := @runTools_made runtime merchantId buyerId (fun _ => True) t
              rest (stepCount + 1) (executed ++ [result]) fun tool' u _ =>
                final_of_moves ((hany tool').at u)
            rw [hcalls]
            exact List.mem_append_left _ hcall
  | @later tool tool' rest stepCount s t u result hlimits hrun hconfirm _ ih =>
      rw [runTools_step hlimits, hrun]
      dsimp only
      rw [hconfirm]
      exact ih hcall

/-- **The tools of a loop are at most as many as the limit leaves**, and all but the last were
executed without asking for a confirmation. -/
theorem runTools_begun (plan : List PlannedTool) (stepCount : ℕ)
    (executed : List ToolExecutionResult) (s : Run) :
    ∃ begun, (final (runTools runtime merchantId buyerId plan stepCount executed) s).begun =
        s.begun ++ begun ∧ begun.length ≤ maxSteps - stepCount ∧
      ∀ toolName ∈ begun.dropLast, ∃ arguments t result u,
        ComesTo runtime merchantId buyerId plan stepCount s (toolName, arguments) t ∧
        executeTool runtime toolName arguments merchantId buyerId false t = .ok result u ∧
        result.requiresConfirmation = false := by
  induction plan generalizing stepCount executed s with
  | nil => exact ⟨[], (List.append_nil _).symm, Nat.zero_le _, by rintro _ ⟨⟩⟩
  | cons tool rest ih =>
      by_cases hlimits : WithinLimits runtime stepCount
      · have hfirst : stepCount < maxSteps := hlimits.1
        have hany : Moves (Made fun _ => True)
            (executeTool runtime tool.1 tool.2 merchantId buyerId false) :=
          executeTool_made (fun _ _ => trivial) fun _ _ => trivial
        have hsame := final_of_moves (hany.at { s with begun := s.begun ++ [tool.1] })
        have hone : [tool.1].length ≤ maxSteps - stepCount := by
          rw [List.length_singleton]
          omega
        rw [runTools_step hlimits]
        cases hrun : executeTool runtime tool.1 tool.2 merchantId buyerId false
            { s with begun := s.begun ++ [tool.1] } with
        | error e t =>
            rw [final, hrun] at hsame
            exact ⟨[tool.1], hsame.2, hone, by rintro _ ⟨⟩⟩
        | ok result t =>
            rw [final, hrun] at hsame
            dsimp only
            by_cases hconfirm : result.requiresConfirmation = true
            · rw [if_pos hconfirm]
              exact ⟨[tool.1], hsame.2, hone, by rintro _ ⟨⟩⟩
            · rw [if_neg hconfirm]
              have hunconfirmed : result.requiresConfirmation = false := by
                rwa [Bool.not_eq_true] at hconfirm
              obtain ⟨begun, hbegun, hlength, hrest⟩ := ih (stepCount + 1) (executed ++ [result]) t
              refine ⟨tool.1 :: begun, ?_, ?_, fun toolName hmem => ?_⟩
              · rw [hbegun, hsame.2, List.append_assoc]
                rfl
              · rw [List.length_cons]
                omega
              · have hcases : toolName = tool.1 ∨ toolName ∈ begun.dropLast := by
                  cases begun with
                  | nil => cases hmem
                  | cons b begun => exact List.mem_cons.1 hmem
                rcases hcases with rfl | hmem
                · exact ⟨tool.2, _, result, t, .here hlimits, hrun, hunconfirmed⟩
                · obtain ⟨arguments, u, result', v, hcomes, hrun', hunconfirmed'⟩ :=
                    hrest toolName hmem
                  exact ⟨arguments, u, result', v, .later hlimits hrun hunconfirmed hcomes, hrun',
                    hunconfirmed'⟩
      · rw [runTools_of_late hlimits]
        exact ⟨[], (List.append_nil _).symm, Nat.zero_le _, by rintro _ ⟨⟩⟩

/-! ### The run -/

/-- The guard, the intent and the plan only write to the ledger. -/
theorem prepare_made (h : ∀ call, call.stateChanging = false → P call) (userPrompt : String) :
    Moves (Made P) (prepare runtime userPrompt merchantId buyerId) := by
  unfold prepare
  refine Moves.ask.bind fun _ => (recordSuppressed_made h _).bind fun _ => Moves.ask.bind
    fun response => Moves.ask.bind fun intent => (recordSuppressed_made h _).bind fun _ =>
      Moves.ask.bind fun plan => .pure

theorem runBoundedAgent_final {userPrompt : String} :
    final (runBoundedAgent runtime userPrompt merchantId buyerId) s =
      match prepare runtime userPrompt merchantId buyerId s with
      | .error _ t => t
      | .ok prepared t => final (runTools runtime merchantId buyerId prepared.2 0 []) t := by
  unfold runBoundedAgent
  cases hprepared : prepare runtime userPrompt merchantId buyerId s with
  | error e t => rw [final_bind_of_error hprepared]
  | ok prepared t => rw [final_bind_of_ok hprepared, final_bind_pure]

end

/-- **An agent without a confirmation changes nothing, exactly when nothing ungated comes
up.**  A single tool makes no call that changes the state of commerce if and only if it is not
a valid `request_authorization` for a known buyer.  A run makes none, begins at most
`maxSteps` tools and stops at the first one that needs a confirmation, if and only if no tool
that its loop comes to is such a request; whatever the prompt, the model's answer, the plan,
the clock, the web and the store are. -/
theorem unconfirmed_iff (runtime : Runtime) (w : World) (merchantId : String)
    (buyerId : Option String) :
    (∀ toolName arguments,
      Harmless (final (executeTool runtime toolName arguments merchantId buyerId false)
        { world := w }) ↔ ¬Ungated runtime.screening buyerId (toolName, arguments)) ∧
    ∀ userPrompt,
      Bounded (final (runBoundedAgent runtime userPrompt merchantId buyerId) { world := w }) ↔
        ∀ intent plan s,
          prepare runtime userPrompt merchantId buyerId { world := w } = .ok (intent, plan) s →
          ∀ tool t, ComesTo runtime merchantId buyerId plan 0 s tool t →
            ¬Ungated runtime.screening buyerId tool := by
  have hreads : ∀ call : FacadeCall, call.stateChanging = false → ¬call.ChangesCommerce := by
    intro call hcall hchanges
    rw [changesCommerce_iff, hcall] at hchanges
    cases hchanges
  refine ⟨fun toolName arguments => ⟨fun hharmless hungated => ?_, fun hgated => ?_⟩,
    fun userPrompt => ⟨fun hbounded => ?_, fun hgated => ?_⟩⟩
  · obtain ⟨call, hcall, hchanging⟩ :=
      @executeTool_of_ungated runtime merchantId buyerId { world := w } _ hungated
    exact hharmless call hcall (changesCommerce_iff.2 hchanging)
  · have hmoves : Moves (Made fun call => ¬call.ChangesCommerce)
        (executeTool runtime toolName arguments merchantId buyerId false) :=
      executeTool_made hreads fun hungated => absurd hungated hgated
    obtain ⟨⟨made, hcalls, hmade⟩, -⟩ := final_of_moves (hmoves.at { world := w })
    intro call hcall
    rw [hcalls] at hcall
    exact hmade call hcall
  · intro intent plan s hprepared tool t hcomes hungated
    obtain ⟨call, hcall, hchanging⟩ :=
      @executeTool_of_ungated runtime merchantId buyerId t _ hungated
    refine hbounded.1 call ?_ (changesCommerce_iff.2 hchanging)
    rw [runBoundedAgent_final, hprepared]
    exact calls_of_comesTo hcomes hcall
  · rw [runBoundedAgent_final]
    have hmoves : Moves (Made fun call => ¬call.ChangesCommerce)
      (prepare runtime userPrompt merchantId buyerId) := prepare_made hreads userPrompt
    have hstart := final_of_moves (hmoves.at { world := w })
    cases hprepared : prepare runtime userPrompt merchantId buyerId { world := w } with
    | error e s =>
        rw [final, hprepared] at hstart
        obtain ⟨⟨made, hcalls, hmade⟩, hbegun⟩ := hstart
        dsimp only at hcalls hbegun ⊢
        refine ⟨fun call hcall => hmade call (by rwa [hcalls] at hcall), ?_, ?_⟩
        · rw [hbegun]
          exact Nat.zero_le _
        · rw [StopsAtFirst, hbegun]
          rintro _ ⟨⟩
    | ok prepared s =>
        rw [final, hprepared] at hstart
        obtain ⟨⟨made, hcalls, hmade⟩, hbegun⟩ := hstart
        dsimp only at hcalls hbegun ⊢
        have hnone := hgated prepared.1 prepared.2 s hprepared
        have htools : ∀ tool t, ComesTo runtime merchantId buyerId prepared.2 0 s tool t →
            Moves (Made fun call => ¬call.ChangesCommerce)
              (executeTool runtime tool.1 tool.2 merchantId buyerId false) := fun tool t hcomes =>
          executeTool_made hreads fun hungated => absurd hungated (hnone tool t hcomes)
        obtain ⟨made', hcalls', hmade'⟩ := runTools_made [] fun tool t hcomes =>
          final_of_moves ((htools tool t hcomes).at t)
        obtain ⟨begun, hbegun', hlength, hunconfirmed⟩ :=
          @runTools_begun runtime merchantId buyerId prepared.2 0 [] s
        rw [hbegun] at hbegun'
        refine ⟨fun call hcall => ?_, ?_, fun toolName hmem tool htool hname => ?_⟩
        · rw [hcalls', hcalls] at hcall
          rcases List.mem_append.1 hcall with hcall | hcall
          · exact hmade call hcall
          · exact hmade' call hcall
        · rw [hbegun']
          exact hlength
        · rw [hbegun'] at hmem
          obtain ⟨arguments, t, result, u, hcomes, hrun, hresult⟩ := hunconfirmed toolName hmem
          subst hname
          exact hnone _ t hcomes (ungated_of_unconfirmed htool hrun hresult)

/-! ### A request that no one confirmed -/

/-- An agent whose model asks for an authorization of the checkout `chk`. -/
def eagerRuntime : Runtime where
  env := fun _ => shopEnv
  seed := fun _ _ => .ok []
  screening := { refusal := fun _ _ => "", isSafePublicUrl := fun _ => true }
  web := fun _ => { research := fun _ _ => .ok ([], 0), fetchPage := fun _ => .ok "" }
  assertSafe := fun _ => .ok ()
  generate := fun _ => .ok
    { parsedJson := .obj [("tool_calls", .arr [.obj [("tool_name", .str "request_authorization"),
        ("arguments", .obj [("checkout_id", .str "chk")])]])]
      modelVersion := "mock" }
  validateIntent := fun _ prompt => .ok
    { query := prompt, category := none, financial := ⟨none, some .inr⟩, minMemoryGb := none,
      minStorageGb := none, maxDeliveryDays := none, quantity := ⟨1, by decide⟩ }
  runId := "run"
  elapsed := fun _ => 0
  repr := fun _ => ""

/-- **An unconfirmed request approves itself**: the tool makes a state-changing call and
creates an approved authorization, and so does the run whose plan names it. -/
theorem authorized_unconfirmed :
    ¬Harmless (final (executeTool eagerRuntime "request_authorization"
        [("checkout_id", .str "chk")] "mer" (some "byr") false) { world := checkedOut }) ∧
      ¬Bounded (final (runBoundedAgent eagerRuntime "buy it" "mer" (some "byr"))
        { world := checkedOut }) ∧
      (final (runBoundedAgent eagerRuntime "buy it" "mer" (some "byr"))
        { world := checkedOut }).world.db.authorizations.rows.map Authorization.status =
          [.approved] := by
  have hcall : FacadeCall.requestAuthorization "byr" "mer" "chk" ∈
      (final (executeTool eagerRuntime "request_authorization" [("checkout_id", .str "chk")] "mer"
        (some "byr") false) { world := checkedOut }).calls := by
    decide
  have hrun : FacadeCall.requestAuthorization "byr" "mer" "chk" ∈
      (final (runBoundedAgent eagerRuntime "buy it" "mer" (some "byr"))
        { world := checkedOut }).calls := by
    decide
  refine ⟨fun h => h _ hcall (.inl rfl), fun h => h.1 _ hrun (.inl rfl), by decide⟩

end Agent
end AgenticCommerce
