import WikiNext.Foundation.Effect
import WikiNext.Search.Client

/-!
# Reading a response in chunks

§1 computes what the reading of a response comes to from the stream alone. §2
is the same loop over a buffer that is changed in place, with the machine's own
arithmetic; §3 shows that it computes the result of §1 and never panics.
-/

namespace WikiNext.Search

open WikiNext.Foundation

/-! ## §1  The result -/

/-- A sum that `usize` cannot hold is above the limit too. -/
theorem checkedAdd_filter (a b : Nat) :
    (checkedAdd a b).filter (· ≤ MAX_DIAGNOSTIC_RESPONSE_BYTES) =
      if a + b ≤ MAX_DIAGNOSTIC_RESPONSE_BYTES then some (a + b) else none := by
  have hmax : MAX_DIAGNOSTIC_RESPONSE_BYTES < 2 ^ 64 := by decide
  rw [checkedAdd]
  by_cases hfits : a + b ≤ MAX_DIAGNOSTIC_RESPONSE_BYTES
  · rw [if_pos (Nat.lt_of_le_of_lt hfits hmax), if_pos hfits, Option.filter_some,
      if_pos (by simpa using hfits)]
  · rw [if_neg hfits]
    split
    · rw [Option.filter_some, if_neg (by simpa using hfits)]
    · rfl

theorem appendBounded_eq (body chunk : List UInt8) :
    appendBounded body chunk =
      if body.length + chunk.length ≤ MAX_DIAGNOSTIC_RESPONSE_BYTES then .ok (body ++ chunk)
      else .error .responseTooLarge := by
  rw [appendBounded, checkedAdd_filter]
  split_ifs <;> rfl

theorem readChunks_ok (chunks : List (List UInt8)) :
    ∀ body : List UInt8, body.length ≤ MAX_DIAGNOSTIC_RESPONSE_BYTES →
      readChunks body (chunks.map .ok) =
        if (body ++ chunks.flatten).length ≤ MAX_DIAGNOSTIC_RESPONSE_BYTES then
          .ok (body ++ chunks.flatten)
        else .error .responseTooLarge := by
  induction chunks with
  | nil =>
      intro body hbody
      simp [readChunks, hbody]
  | cons chunk rest ih =>
      intro body hbody
      rw [List.map_cons, readChunks, appendBounded_eq]
      by_cases hfits : body.length + chunk.length ≤ MAX_DIAGNOSTIC_RESPONSE_BYTES
      · rw [if_pos hfits]
        show readChunks (body ++ chunk) (rest.map .ok) = _
        rw [ih (body ++ chunk) (by rwa [List.length_append]), List.append_assoc,
          ← List.flatten_cons]
      · -- what follows only adds to a stream that is too long already
        have hlong : ¬ (body ++ (chunk :: rest).flatten).length ≤
            MAX_DIAGNOSTIC_RESPONSE_BYTES := by
          rw [List.length_append, List.flatten_cons, List.length_append]
          omega
        rw [if_neg hfits, if_neg hlong]

/-- The header decides earlier, and the same. -/
theorem readResponse_ok {content_length : Option Nat} {chunks : List (List UInt8)}
    (hheader : content_length = none ∨ content_length = some chunks.flatten.length) :
    readResponse content_length (chunks.map .ok) =
      if chunks.flatten.length ≤ MAX_DIAGNOSTIC_RESPONSE_BYTES then .ok chunks.flatten
      else .error .responseTooLarge := by
  have hread := readChunks_ok chunks [] (Nat.zero_le _)
  rw [List.nil_append] at hread
  rw [readResponse]
  rcases hheader with rfl | rfl
  · rw [if_neg (by simp), hread]
  · by_cases hfits : chunks.flatten.length ≤ MAX_DIAGNOSTIC_RESPONSE_BYTES
    · rw [if_neg (by simpa using hfits), hread]
    · rw [if_pos (by simpa using hfits), if_neg hfits]

/-- A successful response is decoded from the bytes that were read. -/
theorem receive_response (json : JsonCrate) (field : String) {status : StatusCode}
    (hstatus : status.is_success = true) (content_length : Option Nat)
    (received : List (Except String (List UInt8))) :
    SearchClient.receive json field (.response status content_length received) =
      readResponse content_length received >>= fun body =>
        (json.readField field body).mapError .decode := by
  simp [SearchClient.receive, hstatus]

/-! ## §2  The buffer -/

/-- A run that does not return: with an error, or because arithmetic or an
allocation panics. -/
inductive Stop where
  | failed (e : SearchError)
  | panicked
deriving DecidableEq, Repr

/-- `usize` subtraction. -/
def usizeSub (a b : Nat) : EStateM Stop (List UInt8) Nat :=
  if b ≤ a then pure (a - b) else throw .panicked

/-- `Vec::reserve` of bytes: at most `isize::MAX` of them in all. -/
def reserve (additional : Nat) : EStateM Stop (List UInt8) Unit := do
  let body ← get
  if body.length + additional < 2 ^ 63 then pure () else throw .panicked

/-- `append_bounded` on the buffer itself. -/
def appendInPlace (chunk : List UInt8) : EStateM Stop (List UInt8) Unit := do
  let body ← get
  match (checkedAdd body.length chunk.length).filter (· ≤ MAX_DIAGNOSTIC_RESPONSE_BYTES) with
  | none => throw (.failed .responseTooLarge)
  | some length => do
      let additional ← usizeSub length body.length
      reserve additional
      set (body ++ chunk)

/-- The loop over the chunks of a response. -/
def readInPlace : List (Except String (List UInt8)) → EStateM Stop (List UInt8) Unit
  | [] => pure ()
  | .error e :: _ => throw (.failed (.request e))
  | .ok chunk :: rest => do
      appendInPlace chunk
      readInPlace rest

/-! ## §3  The loop -/

theorem wp_usizeSub {a b : Nat} {body : List UInt8} {Q : Nat → List UInt8 → Prop}
    {E : Stop → List UInt8 → Prop} (hle : b ≤ a) (h : Q (a - b) body) :
    Wp (usizeSub a b) Q E body := by
  rw [usizeSub, if_pos hle]
  exact h

theorem wp_reserve {additional : Nat} {body : List UInt8} {Q : Unit → List UInt8 → Prop}
    {E : Stop → List UInt8 → Prop} (hroom : body.length + additional < 2 ^ 63)
    (h : Q () body) : Wp (reserve additional) Q E body := by
  rw [reserve, wp_bind, wp_get, if_pos hroom]
  exact h

/-- One chunk is taken whole, or it is too long and the buffer stays as it was. -/
theorem wp_appendInPlace (body chunk : List UInt8) :
    Wp (appendInPlace chunk)
      (fun _ body' => body' = body ++ chunk ∧ body'.length ≤ MAX_DIAGNOSTIC_RESPONSE_BYTES)
      (fun stop body' => stop = .failed .responseTooLarge ∧ body' = body ∧
        MAX_DIAGNOSTIC_RESPONSE_BYTES < body.length + chunk.length) body := by
  rw [appendInPlace, wp_bind, wp_get, checkedAdd_filter]
  by_cases hfits : body.length + chunk.length ≤ MAX_DIAGNOSTIC_RESPONSE_BYTES
  · rw [if_pos hfits]
    show Wp (usizeSub _ _ >>= fun additional => reserve additional >>= fun _ => set _) _ _ _
    rw [wp_bind]
    refine wp_usizeSub (Nat.le_add_right _ _) ?_
    rw [Nat.add_sub_cancel_left, wp_bind]
    refine wp_reserve (Nat.lt_of_le_of_lt hfits (by decide)) ?_
    rw [wp_set, List.length_append]
    exact ⟨rfl, hfits⟩
  · rw [if_neg hfits]
    exact ⟨rfl, rfl, Nat.lt_of_not_le hfits⟩

/-- Reading goes through every part of a response that came first. -/
theorem readInPlace_append (seen rest : List (Except String (List UInt8))) :
    readInPlace (seen ++ rest) = readInPlace seen >>= fun _ => readInPlace rest := by
  induction seen with
  | nil => rfl
  | cons chunk seen ih =>
      cases chunk with
      | error e => rfl
      | ok chunk =>
          rw [List.cons_append, readInPlace, readInPlace, ih, bind_assoc]

/-- The loop computes what the loop over values computes, within the limit. -/
theorem wp_readInPlace (received : List (Except String (List UInt8))) :
    ∀ body : List UInt8, body.length ≤ MAX_DIAGNOSTIC_RESPONSE_BYTES →
      Wp (readInPlace received)
        (fun _ body' => body'.length ≤ MAX_DIAGNOSTIC_RESPONSE_BYTES ∧
          readChunks body received = .ok body')
        (fun stop body' => body'.length ≤ MAX_DIAGNOSTIC_RESPONSE_BYTES ∧
          ∃ e, stop = .failed e ∧ readChunks body received = .error e) body := by
  induction received with
  | nil =>
      intro body hbody
      exact ⟨hbody, rfl⟩
  | cons chunk rest ih =>
      intro body hbody
      cases chunk with
      | error e => exact ⟨hbody, .request e, rfl, rfl⟩
      | ok chunk =>
          rw [readInPlace, wp_bind, readChunks, appendBounded_eq]
          refine (wp_appendInPlace body chunk).mono ?_ ?_
          · rintro _ _ ⟨rfl, hfits⟩
            rw [if_pos (by rwa [← List.length_append])]
            exact ih (body ++ chunk) hfits
          · rintro _ _ ⟨rfl, rfl, hlong⟩
            rw [if_neg (Nat.not_le_of_lt hlong)]
            exact ⟨hbody, _, rfl, rfl⟩

/-- **Reading is independent of the chunking.** A response of some total length,
split in any way and with its length announced or not, is handed over whole if
it fits the limit and is too large otherwise. In place, a chunk of any length
is appended whole or leaves the buffer alone, and reading any part of any
response, failing ones included, neither panics nor leaves the limit. -/
theorem bounded_reading (json : JsonCrate) (field : String) :
    (∀ chunks : List (List UInt8), ∀ content_length ∈ [none, some chunks.flatten.length],
      readResponse content_length (chunks.map .ok) =
        (if chunks.flatten.length ≤ MAX_DIAGNOSTIC_RESPONSE_BYTES then .ok chunks.flatten
        else .error .responseTooLarge) ∧
      ∀ status : StatusCode, status.is_success = true →
        SearchClient.receive json field (.response status content_length (chunks.map .ok)) =
          if chunks.flatten.length ≤ MAX_DIAGNOSTIC_RESPONSE_BYTES then
            (json.readField field chunks.flatten).mapError .decode
          else .error .responseTooLarge) ∧
    (∀ chunks chunks' : List (List UInt8), chunks.flatten = chunks'.flatten →
      ∀ content_length ∈ [none, some chunks.flatten.length],
      ∀ content_length' ∈ [none, some chunks'.flatten.length],
        readResponse content_length (chunks.map .ok) =
          readResponse content_length' (chunks'.map .ok)) ∧
    (∀ body chunk : List UInt8, Wp (appendInPlace chunk)
      (fun _ body' => body' = body ++ chunk ∧ body'.length ≤ MAX_DIAGNOSTIC_RESPONSE_BYTES)
      (fun stop body' => stop = .failed .responseTooLarge ∧ body' = body ∧
        MAX_DIAGNOSTIC_RESPONSE_BYTES < body.length + chunk.length) body) ∧
    ∀ seen rest : List (Except String (List UInt8)),
      readInPlace (seen ++ rest) = (readInPlace seen >>= fun _ => readInPlace rest) ∧
      Wp (readInPlace seen)
        (fun _ body => body.length ≤ MAX_DIAGNOSTIC_RESPONSE_BYTES ∧
          readChunks [] seen = .ok body)
        (fun stop body => body.length ≤ MAX_DIAGNOSTIC_RESPONSE_BYTES ∧
          ∃ e, stop = .failed e ∧ readChunks [] seen = .error e) [] := by
  have hheader : ∀ {stream : List UInt8} {content_length : Option Nat},
      content_length ∈ [none, some stream.length] →
        content_length = none ∨ content_length = some stream.length := by
    intro stream content_length h
    simpa using h
  refine ⟨fun chunks content_length h => ⟨readResponse_ok (hheader h), fun status hstatus => ?_⟩,
    fun chunks chunks' hsame content_length h content_length' h' => ?_, wp_appendInPlace,
    fun seen rest => ⟨readInPlace_append seen rest, wp_readInPlace seen [] (Nat.zero_le _)⟩⟩
  · rw [receive_response json field hstatus, readResponse_ok (hheader h)]
    split_ifs <;> rfl
  · rw [readResponse_ok (hheader h), readResponse_ok (hheader h'), hsame]

theorem bounded_reading_split :
    readResponse none ([[1], [], [2, 3]].map .ok) = readResponse (some 3) ([[1, 2, 3]].map .ok) :=
  (bounded_reading ⟨fun _ _ => .error "not an object"⟩ "status").2.1 [[1], [], [2, 3]] [[1, 2, 3]]
    rfl none (by decide) (some 3) (by decide)

end WikiNext.Search
