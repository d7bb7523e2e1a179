import FileTrace.Proofs.Consumer.Resumption

namespace FileTrace

namespace Session

def afterPolls (timeout n : Nat) (p : Polling) : Polling :=
  final (polls (List.replicate n timeout)) p

def pollAfter (timeout n : Nat) (p : Polling) : Consumer.Polled :=
  (afterPolls timeout n p).consumer.poll timeout (afterPolls timeout n p).feed

def historyOfPolls (timeout n : Nat) (p : Polling) : Journal :=
  history (polls (List.replicate n timeout)) p

theorem afterPolls_succ (timeout n : Nat) (p : Polling) :
    afterPolls timeout (n + 1) p = afterPolls timeout n (afterPolls timeout 1 p) := rfl

theorem historyOfPolls_succ (timeout n : Nat) (p : Polling) :
    historyOfPolls timeout (n + 1) p =
      (pollAfter timeout 0 p).journal ++ historyOfPolls timeout n (afterPolls timeout 1 p) := rfl

theorem pollLoop_succ (timeout : Nat) (stop : Polling → Bool) (limit : Nat) (p : Polling) :
    pollLoop timeout stop (limit + 1) p =
      match (pollAfter timeout 0 p).result with
      | .error e =>
        some (.pollFailure e.message, afterPolls timeout 1 p, (pollAfter timeout 0 p).journal ++
          logged .error ("Error polling perf buffer: " ++ e.message))
      | .ok _ =>
        if stop (afterPolls timeout 1 p) then
          some (.shutdown, afterPolls timeout 1 p,
            (pollAfter timeout 0 p).journal ++ logged .info "Shutdown requested")
        else (pollLoop timeout stop limit (afterPolls timeout 1 p)).map fun (exit, last, later) =>
          (exit, last, (pollAfter timeout 0 p).journal ++ later) := rfl

inductive Ends (stop : Polling → Bool) (last : Polling) :
    Except ConsumerError PollResult → Exit → Journal → Prop where
  | failure (e : ConsumerError) :
      Ends stop last (.error e) (.pollFailure e.message)
        (logged .error ("Error polling perf buffer: " ++ e.message))
  | shutdown (answer : PollResult) (up : stop last = true) :
      Ends stop last (.ok answer) .shutdown (logged .info "Shutdown requested")

structure EndsAfter (timeout : Nat) (stop : Polling → Bool) (p : Polling) (n : Nat) (exit : Exit)
    (last : Polling) (journal : Journal) : Prop where
  polled : 0 < n
  goesOn : ∀ i < n - 1, (∃ answer, (pollAfter timeout i p).result = .ok answer) ∧
    stop (afterPolls timeout (i + 1) p) = false
  reached : last = afterPolls timeout n p
  ends : ∃ line, Ends stop last (pollAfter timeout (n - 1) p).result exit line ∧
    journal = historyOfPolls timeout n p ++ line

section

variable {timeout limit n : Nat} {stop : Polling → Bool} {p last : Polling} {exit : Exit}
  {journal : Journal}

theorem EndsAfter.cons (succeeds : ∃ answer, (pollAfter timeout 0 p).result = .ok answer)
    (down : stop (afterPolls timeout 1 p) = false)
    (h : EndsAfter timeout stop (afterPolls timeout 1 p) n exit last journal) :
    EndsAfter timeout stop p (n + 1) exit last ((pollAfter timeout 0 p).journal ++ journal) := by
  obtain ⟨m, rfl⟩ := Nat.exists_eq_succ_of_ne_zero (Nat.pos_iff_ne_zero.mp h.polled)
  obtain ⟨line, ends, rfl⟩ := h.ends
  refine ⟨Nat.succ_pos _, fun i hi => ?_, h.reached, line, ends, ?_⟩
  · cases i with
    | zero => exact ⟨succeeds, down⟩
    | succ i => exact h.goesOn i (Nat.lt_of_succ_lt_succ hi)
  · rw [historyOfPolls_succ timeout (m + 1) p, List.append_assoc]

theorem EndsAfter.one {line : Journal}
    (h : Ends stop (afterPolls timeout 1 p) (pollAfter timeout 0 p).result exit line) :
    EndsAfter timeout stop p 1 exit (afterPolls timeout 1 p)
      ((pollAfter timeout 0 p).journal ++ line) where
  polled := Nat.one_pos
  goesOn i hi := absurd hi (Nat.not_lt_zero i)
  reached := rfl
  ends := ⟨line, h, by rw [historyOfPolls_succ]; exact congrArg (· ++ line) (List.append_nil _).symm⟩

theorem EndsAfter.split (h : EndsAfter timeout stop p (n + 1) exit last journal) :
    (n = 0 ∧ last = afterPolls timeout 1 p ∧
        ∃ line, Ends stop last (pollAfter timeout 0 p).result exit line ∧
          journal = (pollAfter timeout 0 p).journal ++ line) ∨
      ((∃ answer, (pollAfter timeout 0 p).result = .ok answer) ∧
        stop (afterPolls timeout 1 p) = false ∧
        ∃ later, journal = (pollAfter timeout 0 p).journal ++ later ∧
          EndsAfter timeout stop (afterPolls timeout 1 p) n exit last later) := by
  obtain ⟨line, ends, rfl⟩ := h.ends
  cases n with
  | zero =>
    refine .inl ⟨rfl, h.reached, line, ends, ?_⟩
    rw [historyOfPolls_succ]
    exact congrArg (· ++ line) (List.append_nil _)
  | succ n =>
    obtain ⟨succeeds, down⟩ := h.goesOn 0 (Nat.succ_pos n)
    refine .inr ⟨succeeds, down, historyOfPolls timeout (n + 1) (afterPolls timeout 1 p) ++ line,
      ?_, Nat.succ_pos n, fun i hi => h.goesOn (i + 1) (Nat.succ_lt_succ hi), h.reached, line, ends, rfl⟩
    rw [historyOfPolls_succ timeout (n + 1) p, List.append_assoc]

theorem endsAfter_of_pollLoop (h : pollLoop timeout stop limit p = some (exit, last, journal)) :
    ∃ n ≤ limit, EndsAfter timeout stop p n exit last journal := by
  induction limit generalizing p journal with
  | zero => cases h
  | succ limit ih =>
    have first : 1 ≤ limit + 1 := Nat.le_add_left 1 limit
    rw [pollLoop_succ] at h
    rcases result : (pollAfter timeout 0 p).result with e | answer
    · rw [result] at h
      cases h
      exact ⟨1, first, .one (result ▸ .failure e)⟩
    · rw [result] at h
      dsimp only at h
      split at h
      · rename_i up
        cases h
        exact ⟨1, first, .one (result ▸ .shutdown answer up)⟩
      · rename_i down
        obtain ⟨⟨exit', last', later⟩, looped, same⟩ := Option.map_eq_some_iff.mp h
        cases same
        obtain ⟨n, enough, ends⟩ := ih looped
        exact ⟨n + 1, Nat.succ_le_succ enough,
          .cons ⟨answer, result⟩ (Bool.eq_false_iff.mpr down) ends⟩

theorem pollLoop_of_endsAfter (h : EndsAfter timeout stop p n exit last journal)
    (enough : n ≤ limit) : pollLoop timeout stop limit p = some (exit, last, journal) := by
  induction n generalizing p journal limit with
  | zero => exact absurd h.polled (Nat.lt_irrefl 0)
  | succ n ih =>
    obtain ⟨limit, rfl⟩ := Nat.exists_eq_succ_of_ne_zero (Nat.ne_zero_of_lt enough)
    rw [pollLoop_succ]
    rcases h.split with ⟨-, rfl, line, ends, rfl⟩ | ⟨⟨answer, result⟩, down, later, rfl, ends⟩
    · generalize (pollAfter timeout 0 p).result = result at ends ⊢
      cases ends with
      | failure e => rfl
      | shutdown answer up => exact if_pos up
    · have looped := ih ends (Nat.le_of_succ_le_succ enough)
      rw [result, looped]
      exact if_neg (Bool.eq_false_iff.mp down)

end

end Session

end FileTrace
