import JavadocNames.Proofs.Document.Keys
import Mathlib.Data.List.DropRight

/-!
# The history of a counter

A counter is asked to see keys, to tell how often it has seen a key, and to tell whether it
has seen any; and a new counter may take its place.  All that it answers is told by the keys
that have been seen since it was new.  So questions leave no trace, the indices of a key are
counted from one without a gap, and no other key has a part in them.
-/

namespace JavadocNames

namespace OverloadCounter

/-- What a counter can be asked for. -/
inductive Request where
  /-- See a key once more. -/
  | next (key : MethodKey)
  /-- Tell how often a key has been seen. -/
  | count (key : MethodKey)
  /-- Tell whether no key has been seen. -/
  | isEmpty
  /-- Put a new counter in the place of this one. -/
  | renew
  deriving DecidableEq

/-- What a counter answers. -/
inductive Answer where
  | index (n : Nat)
  | count (n : Nat)
  | isEmpty (b : Bool)
  | renewed
  deriving DecidableEq

namespace Request

/-- The key that is seen. -/
def seen? : Request → Option MethodKey
  | next key => some key
  | _ => none

/-- The request is about a key, or it is for a new counter. -/
def concerns (key : MethodKey) : Request → Bool
  | next k => k = key
  | count k => k = key
  | isEmpty => false
  | renew => true

end Request

/-- The answer to a request, and the counter after it. -/
def serve (counter : OverloadCounter) : Request → Answer × OverloadCounter
  | .next key =>
      let (index, counter) := counter.next key
      (.index index, counter)
  | .count key => (.count (counter.count key), counter)
  | .isEmpty => (.isEmpty counter.isEmpty, counter)
  | .renew => (.renewed, new)

/-- The answers to requests that are made one after the other. -/
def answers : OverloadCounter → List Request → List Answer
  | _, [] => []
  | counter, request :: rest =>
      let (answer, counter) := counter.serve request
      answer :: counter.answers rest

/-- The answers to those of the requests that are asked for. -/
def answersTo (asked : Request → Bool) (counter : OverloadCounter) (requests : List Request) :
    List Answer :=
  ((requests.zip (counter.answers requests)).filter fun exchange => asked exchange.1).map (·.2)

/-! ## What the requests tell -/

/-- The requests that were made since the counter was new. -/
def sinceNew (requests : List Request) : List Request :=
  requests.rtakeWhile (· ≠ .renew)

/-- The keys that have been seen since the counter was new, in order. -/
def keysSeen (requests : List Request) : List MethodKey :=
  (sinceNew requests).filterMap Request.seen?

/-- How often a name has been seen with an arity since the counter was new. -/
def sights (requests : List Request) (name : Text) (arity : Nat) : Nat :=
  (keysSeen requests).countP fun key => key.name = name ∧ key.arity = arity

/-- The answer that the requests before it tell. -/
def answerTold (earlier : List Request) : Request → Answer
  | .next key => .index (1 + sights earlier key.name key.arity)
  | .count key => .count (sights earlier key.name key.arity)
  | .isEmpty => .isEmpty (keysSeen earlier).isEmpty
  | .renew => .renewed

theorem sights_eq_count (requests : List Request) (key : MethodKey) :
    sights requests key.name key.arity = (keysSeen requests).count key := by
  have hsame : ∀ k : MethodKey, (k.name = key.name ∧ k.arity = key.arity) ↔ k = key := by
    rintro ⟨name, arity⟩
    rw [← MethodKey.mk.injEq]
  rw [sights, List.count]
  congr 1
  funext k
  rw [Bool.eq_iff_iff, decide_eq_true_eq, beq_iff_eq, hsame]

theorem keysSeen_renew (requests : List Request) : keysSeen (requests ++ [.renew]) = [] := by
  rw [keysSeen, sinceNew, List.rtakeWhile_concat_neg _ _ _ (by decide)]
  rfl

theorem keysSeen_concat (requests : List Request) (request : Request) (h : request ≠ .renew) :
    keysSeen (requests ++ [request]) = keysSeen requests ++ request.seen?.toList := by
  have hsince : sinceNew (requests ++ [request]) = sinceNew requests ++ [request] :=
    List.rtakeWhile_concat_pos _ _ _ (decide_eq_true h)
  rw [keysSeen, hsince, List.filterMap_append, keysSeen]
  cases request <;> rfl

/-! ## The counter after requests -/

/-- The counter after requests. -/
def left (counter : OverloadCounter) (requests : List Request) : OverloadCounter :=
  requests.foldl (fun counter request => (counter.serve request).2) counter

theorem left_concat (counter : OverloadCounter) (requests : List Request) (request : Request) :
    counter.left (requests ++ [request]) = ((counter.left requests).serve request).2 := by
  rw [left, List.foldl_append]
  rfl

theorem after_concat (counter : OverloadCounter) (keys : List MethodKey) (key : MethodKey) :
    counter.after (keys ++ [key]) = ((counter.after keys).next key).2 := by
  rw [after, List.foldl_append]
  rfl

/-- What requests leave is a counter that has seen the keys since it was new. -/
theorem left_new (requests : List Request) :
    new.left requests = new.after (keysSeen requests) := by
  induction requests using List.reverseRecOn with
  | nil => rfl
  | append_singleton requests request ih =>
      rw [left_concat, ih]
      cases request with
      | next key =>
          rw [keysSeen_concat requests (.next key) nofun]
          exact (new.after_concat (keysSeen requests) key).symm
      | count key =>
          rw [keysSeen_concat requests (.count key) nofun]
          exact congrArg new.after (List.append_nil _).symm
      | isEmpty =>
          rw [keysSeen_concat requests .isEmpty nofun]
          exact congrArg new.after (List.append_nil _).symm
      | renew =>
          rw [keysSeen_renew]
          rfl

/-- One more request is answered as those before it tell. -/
theorem serve_left_new (earlier : List Request) (request : Request) :
    ((new.left earlier).serve request).1 = answerTold earlier request := by
  rw [left_new]
  cases request with
  | next key => simp [serve, answerTold, sights_eq_count, count_after, Nat.add_comm]
  | count key => simp [serve, answerTold, sights_eq_count, count_after]
  | isEmpty =>
      simp only [serve, answerTold, isEmpty_after]
      rfl
  | renew => rfl

/-! ## Answers -/

theorem answers_cons (counter : OverloadCounter) (request : Request) (rest : List Request) :
    counter.answers (request :: rest) =
      (counter.serve request).1 :: (counter.serve request).2.answers rest := rfl

theorem answers_append (counter : OverloadCounter) (requests later : List Request) :
    counter.answers (requests ++ later) =
      counter.answers requests ++ (counter.left requests).answers later := by
  induction requests generalizing counter with
  | nil => rfl
  | cons request rest ih => exact congrArg _ (ih (counter.serve request).2)

theorem length_answers (counter : OverloadCounter) (requests : List Request) :
    (counter.answers requests).length = requests.length := by
  induction requests generalizing counter with
  | nil => rfl
  | cons request rest ih => exact congrArg (· + 1) (ih (counter.serve request).2)

/-- Each request is answered by what the requests before it left. -/
theorem answers_eq_mapIdx (counter : OverloadCounter) (requests : List Request) :
    counter.answers requests = requests.mapIdx fun i request =>
      ((counter.left (requests.take i)).serve request).1 := by
  induction requests generalizing counter with
  | nil => rfl
  | cons request rest ih =>
      rw [List.mapIdx_cons]
      exact congrArg _ (ih (counter.serve request).2)

/-- A request that leaves the counter as it is can be left out with its answer. -/
theorem eraseIdx_answers {request : Request} (h : ∀ counter, (serve counter request).2 = counter)
    (counter : OverloadCounter) (before later : List Request) :
    (counter.answers (before ++ request :: later)).eraseIdx before.length =
      counter.answers (before ++ later) := by
  rw [answers_append, answers_append, answers_cons, h, ← length_answers counter before,
    List.eraseIdx_append_of_length_le (Nat.le_refl _), Nat.sub_self, List.eraseIdx_cons_zero]

/-- What was asked before the counter was new leaves nothing. -/
theorem left_before_new (requests : List Request) :
    new.left (requests.rdropWhile (· ≠ .renew)) = new := by
  have hnone : sinceNew (requests.rdropWhile (· ≠ .renew)) = [] :=
    List.rtakeWhile_eq_nil_iff.mpr fun hne => List.rdropWhile_last_not _ _ hne
  rw [left_new, keysSeen, hnone]
  rfl

/-- Requests since the counter was new are answered as by a new counter. -/
theorem answers_sinceNew_suffix (requests : List Request) :
    new.answers (sinceNew requests) <:+ new.answers requests := by
  have hsplit : requests.rdropWhile (· ≠ .renew) ++ sinceNew requests = requests :=
    List.rdropWhile_append_rtakeWhile
  refine ⟨new.answers (requests.rdropWhile (· ≠ .renew)), ?_⟩
  conv => rhs; rw [← hsplit, answers_append, left_before_new]

theorem answersTo_cons (asked : Request → Bool) (counter : OverloadCounter) (request : Request)
    (rest : List Request) :
    counter.answersTo asked (request :: rest) =
      (if asked request then [(counter.serve request).1] else []) ++
        (counter.serve request).2.answersTo asked rest := by
  rw [answersTo, answers, List.zip_cons_cons, List.filter_cons]
  split <;> rfl

/-- As long as the counter is not replaced, the indices of a key follow each other. -/
theorem answersTo_next (counter : OverloadCounter) (key : MethodKey) {requests : List Request}
    (h : .renew ∉ requests) :
    counter.answersTo (· = .next key) requests =
      (List.range' (counter.count key + 1)
        ((requests.filterMap Request.seen?).count key)).map .index := by
  induction requests generalizing counter with
  | nil => rfl
  | cons request rest ih =>
      rw [List.mem_cons, not_or] at h
      rw [answersTo_cons, ih _ h.2]
      cases request with
      | next k =>
          have hcount : (counter.serve (.next k)).2.count key =
              counter.count key + if k = key then 1 else 0 := counter.count_next k key
          rw [hcount]
          by_cases hk : k = key
          · subst hk
            simp [Request.seen?, serve, List.range'_succ]
          · simp [Request.seen?, hk]
      | count k => rfl
      | isEmpty => rfl
      | renew => exact absurd rfl h.1

/-- For a request about a key it matters only how often that key has been seen. -/
theorem serve_of_concerns {counter counter' : OverloadCounter} {key : MethodKey}
    (hcount : counter.count key = counter'.count key) {request : Request}
    (h : request.concerns key = true) :
    (counter.serve request).1 = (counter'.serve request).1 ∧
      (counter.serve request).2.count key = (counter'.serve request).2.count key := by
  cases request with
  | next k =>
      obtain rfl : k = key := of_decide_eq_true h
      simp [serve, hcount]
  | count k =>
      obtain rfl : k = key := of_decide_eq_true h
      exact ⟨congrArg Answer.count hcount, hcount⟩
  | isEmpty => contradiction
  | renew => exact ⟨rfl, rfl⟩

theorem count_serve_of_not_concerns {key : MethodKey} {request : Request}
    (h : request.concerns key = false) (counter : OverloadCounter) :
    (counter.serve request).2.count key = counter.count key := by
  cases request with
  | next k =>
      have hk : k ≠ key := of_decide_eq_false h
      simp [serve, hk]
  | count k => rfl
  | isEmpty => rfl
  | renew => contradiction

/-- The answers about a key are those to the requests about it alone. -/
theorem answersTo_concerns {counter counter' : OverloadCounter} {key : MethodKey}
    (h : counter.count key = counter'.count key) (requests : List Request) :
    counter.answersTo (·.concerns key) requests =
      counter'.answers (requests.filter (·.concerns key)) := by
  induction requests generalizing counter counter' with
  | nil => rfl
  | cons request rest ih =>
      rw [answersTo_cons]
      cases hrequest : request.concerns key with
      | true =>
          obtain ⟨hanswer, hcount⟩ := serve_of_concerns h hrequest
          rw [List.filter_cons_of_pos hrequest, answers_cons, if_pos rfl, hanswer, ih hcount]
          rfl
      | false =>
          have hcount := (count_serve_of_not_concerns hrequest counter).trans h
          rw [List.filter_cons_of_neg (Bool.eq_false_iff.mp hrequest),
            if_neg Bool.false_ne_true, ih hcount]
          rfl

/-- A counter answers what its history tells.  Whatever it is asked for, in whatever order, the
index of a key that is seen is one more than the number of times that its name has been seen
with its arity since the counter was new, the count of a key is that number, and the counter
is empty when nothing has been seen since.  Questions can be left out, and the other answers
stay.  Since the counter was new, the indices of a key are counted from one without a gap.
And what is answered about a key is answered to the requests about that key alone: other keys,
however alike in name and arity, have no part in it. -/
theorem answers_tell_history (requests : List Request) :
    (new.answers requests = requests.mapIdx fun i request =>
      answerTold (requests.take i) request) ∧
    (∀ before later key,
      (new.answers (before ++ .count key :: later)).eraseIdx before.length =
          new.answers (before ++ later) ∧
        (new.answers (before ++ .isEmpty :: later)).eraseIdx before.length =
          new.answers (before ++ later)) ∧
    (new.answers (sinceNew requests) <:+ new.answers requests ∧
      ∀ key, new.answersTo (· = .next key) (sinceNew requests) =
        (List.range' 1 (sights requests key.name key.arity)).map .index) ∧
    ∀ key, new.answersTo (·.concerns key) requests =
      new.answers (requests.filter (·.concerns key)) := by
  refine ⟨?_, fun before later key => ⟨?_, ?_⟩, ⟨?_, fun key => ?_⟩, fun key => ?_⟩
  · rw [answers_eq_mapIdx]
    simp only [serve_left_new]
  · exact eraseIdx_answers (fun _ => rfl) _ before later
  · exact eraseIdx_answers (fun _ => rfl) _ before later
  · exact answers_sinceNew_suffix requests
  · have hnone : .renew ∉ sinceNew requests := fun hmem =>
      absurd (List.mem_rtakeWhile_imp hmem) (by decide)
    rw [sights_eq_count]
    exact answersTo_next .new key hnone
  · exact answersTo_concerns rfl requests

-- Two keys whose name and arity read the same when they are put together.
example :
    let longName : MethodKey := ⟨"f1".toList, 2⟩
    let shortName : MethodKey := ⟨"f".toList, 12⟩
    new.answers [.next longName, .next shortName, .next longName, .count shortName] =
      [.index 1, .index 1, .index 2, .count 1] := by
  decide

end OverloadCounter

end JavadocNames
