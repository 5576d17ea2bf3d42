import Dataflow.Proofs.LineEnds

namespace Dataflow

namespace Utf8

variable {position : Nat} {pending : Pending} {done : List Char} {b b₁ b₂ b₃ : UInt8} {rest : List UInt8}

theorem scan_lead (h : 0x80 ≤ b.toNat) (hlead : lead? b = some pending) :
    scan position none done (b :: rest) = scan (position + 1) (some pending) done rest := by
  rw [scan, if_neg (by omega), hlead]

theorem scan_more (h : pending.low ≤ b.toNat ∧ b.toNat ≤ pending.high) (howed : pending.owed ≠ 1) :
    scan position (some pending) done (b :: rest) =
      scan (position + 1) (some ⟨pending.owed - 1, 0x80, 0xBF, pending.value * 64 + b.toNat % 64, b :: pending.read⟩)
        done rest := by
  rw [scan, if_pos h, if_neg howed]

theorem scan_last (h : pending.low ≤ b.toNat ∧ b.toNat ≤ pending.high) (howed : pending.owed = 1) :
    scan position (some pending) done (b :: rest) =
      scan (position + 1) none (Char.ofNat (pending.value * 64 + b.toNat % 64) :: done) rest := by
  rw [scan, if_pos h, if_pos howed]

theorem scan_one (h : b.toNat < 0x80) :
    scan position none done (b :: rest) = scan (position + 1) none (Char.ofNat b.toNat :: done) rest := by
  rw [scan, if_pos h]

theorem scan_two (h : 0xC2 ≤ b.toNat ∧ b.toNat ≤ 0xDF) (h₁ : 0x80 ≤ b₁.toNat ∧ b₁.toNat ≤ 0xBF) :
    scan position none done (b :: b₁ :: rest) =
      scan (position + 2) none (Char.ofNat (b.toNat % 32 * 64 + b₁.toNat % 64) :: done) rest := by
  have hlead : lead? b = some ⟨1, 0x80, 0xBF, b.toNat % 32, [b]⟩ := by rw [lead?, if_pos h]
  rw [scan_lead (by omega) hlead, scan_last h₁ rfl]

theorem scan_three (h : 0xE0 ≤ b.toNat ∧ b.toNat ≤ 0xEF)
    (h₁ : (if b.toNat = 0xE0 then 0xA0 else 0x80) ≤ b₁.toNat ∧ b₁.toNat ≤ if b.toNat = 0xED then 0x9F else 0xBF)
    (h₂ : 0x80 ≤ b₂.toNat ∧ b₂.toNat ≤ 0xBF) :
    scan position none done (b :: b₁ :: b₂ :: rest) =
      scan (position + 3) none
        (Char.ofNat ((b.toNat % 16 * 64 + b₁.toNat % 64) * 64 + b₂.toNat % 64) :: done) rest := by
  have hlead : lead? b = some ⟨2, if b.toNat = 0xE0 then 0xA0 else 0x80, if b.toNat = 0xED then 0x9F else 0xBF,
      b.toNat % 16, [b]⟩ := by
    rw [lead?, if_neg (by omega), if_pos h]
  rw [scan_lead (by omega) hlead, scan_more h₁ (Nat.succ_ne_self 1), scan_last h₂ rfl]

theorem scan_four (h : 0xF0 ≤ b.toNat ∧ b.toNat ≤ 0xF4)
    (h₁ : (if b.toNat = 0xF0 then 0x90 else 0x80) ≤ b₁.toNat ∧ b₁.toNat ≤ if b.toNat = 0xF4 then 0x8F else 0xBF)
    (h₂ : 0x80 ≤ b₂.toNat ∧ b₂.toNat ≤ 0xBF) (h₃ : 0x80 ≤ b₃.toNat ∧ b₃.toNat ≤ 0xBF) :
    scan position none done (b :: b₁ :: b₂ :: b₃ :: rest) =
      scan (position + 4) none
        (Char.ofNat (((b.toNat % 8 * 64 + b₁.toNat % 64) * 64 + b₂.toNat % 64) * 64 + b₃.toNat % 64) :: done) rest := by
  have hlead : lead? b = some ⟨3, if b.toNat = 0xF0 then 0x90 else 0x80, if b.toNat = 0xF4 then 0x8F else 0xBF,
      b.toNat % 8, [b]⟩ := by
    rw [lead?, if_neg (by omega), if_neg (by omega), if_pos h]
  rw [scan_lead (by omega) hlead, scan_more h₁ (by simp), scan_more h₂ (by simp), scan_last h₃ rfl]

theorem scan_utf8EncodeChar (position : Nat) (done : List Char) (c : Char) (rest : List UInt8) :
    ∃ position', scan position none done (String.utf8EncodeChar c ++ rest) = scan position' none (c :: done) rest := by
  have hvalid : c.toNat < 0xD800 ∨ 0xDFFF < c.toNat ∧ c.toNat < 0x110000 := c.valid
  have hofNat : Char.ofNat c.toNat = c := Char.ofNat_toNat c
  have hoctet : ∀ n < 256, (UInt8.ofNat n).toNat = n := fun n hn => by rw [UInt8.toNat_ofNat', Nat.mod_eq_of_lt hn]
  have hval : c.val.toNat = c.toNat := rfl
  unfold String.utf8EncodeChar
  simp only [hval]
  generalize c.toNat = v at hvalid hofNat
  split
  · have hb := hoctet v (by omega)
    exact ⟨position + 1, by rw [List.singleton_append, scan_one (by omega), hb, hofNat]⟩
  split
  · have hb := hoctet (v / 64 % 32 + 0xC0) (by omega)
    have hb₁ := hoctet (v % 64 + 0x80) (by omega)
    have hvalue : (v / 64 % 32 + 0xC0) % 32 * 64 + (v % 64 + 0x80) % 64 = v := by omega
    exact ⟨position + 2, by rw [List.cons_append, List.singleton_append, scan_two (by omega) (by omega), hb, hb₁,
      hvalue, hofNat]⟩
  split
  · have hb := hoctet (v / 4096 % 16 + 0xE0) (by omega)
    have hb₁ := hoctet (v / 64 % 64 + 0x80) (by omega)
    have hb₂ := hoctet (v % 64 + 0x80) (by omega)
    have hvalue : ((v / 4096 % 16 + 0xE0) % 16 * 64 + (v / 64 % 64 + 0x80) % 64) * 64 + (v % 64 + 0x80) % 64 = v := by
      omega
    exact ⟨position + 3, by rw [List.cons_append, List.cons_append, List.singleton_append,
      scan_three (by omega) (by split <;> split <;> omega) (by omega), hb, hb₁, hb₂, hvalue, hofNat]⟩
  · have hb := hoctet (v / 262144 % 8 + 0xF0) (by omega)
    have hb₁ := hoctet (v / 4096 % 64 + 0x80) (by omega)
    have hb₂ := hoctet (v / 64 % 64 + 0x80) (by omega)
    have hb₃ := hoctet (v % 64 + 0x80) (by omega)
    have hvalue : (((v / 262144 % 8 + 0xF0) % 8 * 64 + (v / 4096 % 64 + 0x80) % 64) * 64 + (v / 64 % 64 + 0x80) % 64) *
        64 + (v % 64 + 0x80) % 64 = v := by
      omega
    exact ⟨position + 4, by rw [List.cons_append, List.cons_append, List.cons_append, List.singleton_append,
      scan_four (by omega) (by split <;> split <;> omega) (by omega) (by omega), hb, hb₁, hb₂, hb₃, hvalue, hofNat]⟩

theorem scan_flatMap_utf8EncodeChar (position : Nat) (done cs : List Char) :
    scan position none done (cs.flatMap String.utf8EncodeChar) = .ok (done.reverse ++ cs) := by
  induction cs generalizing position done with
  | nil => simp [scan]
  | cons c cs ih =>
      obtain ⟨position', hc⟩ := scan_utf8EncodeChar position done c (cs.flatMap String.utf8EncodeChar)
      rw [List.flatMap_cons, hc, ih]
      simp

theorem encode_eq (text : String) : encode text = text.toList.flatMap String.utf8EncodeChar := by
  rw [encode, String.toUTF8, ← String.utf8Encode_toList, List.utf8Encode, List.toList_data_toByteArray]

theorem decode_encode (text : String) : decode (encode text) = .ok text := by
  rw [decode, encode_eq, scan_flatMap_utf8EncodeChar]
  simp [Except.map]

end Utf8

/-- How loading the text from a file ends, and how loading the text itself ends. -/
inductive LoadedAlike (text file : String) : Except LoadError Pipeline → Except LoadError Pipeline → Prop
  | value {v : Json} (h : Json.parse text = .ok v) : LoadedAlike text file (Pipeline.ofJson v) (Pipeline.ofJson v)
  | malformed {reason : Json.Reason} {line column position : Nat}
      (h : Json.parse text = .error (.malformed reason line column position)) (line' column' position' : Nat) :
      LoadedAlike text file (.error (.json (some file) (.malformed reason line' column' position')))
        (.error (.json none (.malformed reason line column position)))
  | tooManyDigits {count : Nat} (h : Json.parse text = .error (.tooManyDigits count)) :
      LoadedAlike text file (.error (.json (some file) (.tooManyDigits count)))
        (.error (.json none (.tooManyDigits count)))

theorem loadedAlike_ofText (text file : String) :
    LoadedAlike text file (Pipeline.ofText (String.ofList (Text.unifyLineEnds [] text.toList)) (some file))
      (Pipeline.ofText text) := by
  have hparse := Json.parse_unified text
  rw [Pipeline.ofText, Pipeline.ofText]
  generalize hx : Json.parse text = x at hparse
  generalize Json.parse (String.ofList (Text.unifyLineEnds [] text.toList)) = y at hparse
  cases x with
  | ok v =>
      cases Steps.mapError_eq_ok.1 hparse
      exact .value hx
  | error e =>
      cases y with
      | ok w => cases hparse
      | error e' =>
          cases e <;> cases e' <;> cases hparse
          · exact .malformed hx _ _ _
          · exact .tooManyDigits hx

namespace FileTree

variable {tree : FileTree} {path : Path} {octets : List UInt8} {text : String}

theorem pipeline_of_decode (h : tree.read path = .ok octets) (htext : Utf8.decode octets = .ok text) :
    tree.pipeline path =
      (Pipeline.ofText (String.ofList (Text.unifyLineEnds [] text.toList)) (some path.text)).mapError .load := by
  rw [pipeline, h, Except.mapError, Steps.ok_bind, htext, Except.mapError, Steps.ok_bind]

theorem pipeline_of_encode (h : tree.read path = .ok (Utf8.encode text)) :
    tree.pipeline path =
      (Pipeline.ofText (String.ofList (Text.unifyLineEnds [] text.toList)) (some path.text)).mapError .load :=
  pipeline_of_decode h (Utf8.decode_encode text)

/-- A file that holds a text has the pipeline of the text. It is refused as a document if and only if the text is, with
the same message if the text spells a value. If not, the messages give the same reason, the file's one after its path,
at places that may differ. -/
theorem pipeline_agrees_with_ofText (h : tree.read path = .ok (Utf8.encode text)) :
    (∀ p, tree.pipeline path = .ok p ↔ Pipeline.ofText text = .ok p) ∧
    ((∃ cause, tree.pipeline path = .error (.load cause) ∧ cause.isDocumentFault = true) ↔
      ∃ cause, Pipeline.ofText text = .error cause ∧ cause.isDocumentFault = true) ∧
    (∀ v, Json.parse text = .ok v → tree.pipeline path = (Pipeline.ofText text).mapError .load) ∧
    ∀ reason line column position, Json.parse text = .error (.malformed reason line column position) →
      ∃ (cause cause' : LoadError) (line' column' position' : Nat), Pipeline.ofText text = .error cause ∧
        tree.pipeline path = .error (.load cause') ∧
        cause.message = "invalid JSON (" ++ (Json.ParseError.malformed reason line column position).message ++ ")" ∧
        cause'.message = path.text ++ ": invalid JSON (" ++
          (Json.ParseError.malformed reason line' column' position').message ++ ")" := by
  have halike := loadedAlike_ofText text path.text
  rw [pipeline_of_encode h]
  generalize Pipeline.ofText (String.ofList (Text.unifyLineEnds [] text.toList)) (some path.text) = x at halike
  generalize Pipeline.ofText text = y at halike
  cases halike with
  | @value v hv =>
      refine ⟨fun p => Steps.mapError_eq_ok, ?_, fun _ _ => rfl, ?_⟩
      · cases Pipeline.ofJson v with
        | ok p => simp [Except.mapError]
        | error e => simp [Except.mapError]
      · intro reason line column position he
        cases hv.symm.trans he
  | malformed he line' column' position' =>
      refine ⟨fun p => by simp [Except.mapError], ?_, ?_, ?_⟩
      · exact ⟨fun _ => ⟨_, rfl, rfl⟩, fun _ => ⟨_, rfl, rfl⟩⟩
      · intro v hv
        cases hv.symm.trans he
      · intro reason line column position he'
        cases he.symm.trans he'
        exact ⟨_, _, line', column', position', rfl, rfl, rfl, rfl⟩
  | tooManyDigits he =>
      refine ⟨fun p => by simp [Except.mapError], ?_, ?_, ?_⟩
      · simp [Except.mapError, LoadError.isDocumentFault]
      · intro v hv
        cases hv.symm.trans he
      · intro reason line column position he'
        cases he.symm.trans he'

def brokenOff : FileTree where
  entries := [(["flows"], .directory), (["flows", "broken.json"], .file (Utf8.encode "\x7b\r\n\r"))]

theorem brokenOff_read_alike : ∃ (cause cause' : LoadError) (line column position : Nat),
    Pipeline.ofText "\x7b\r\n\r" = .error cause ∧
    brokenOff.pipeline (Path.ofText "flows/./broken.json") = .error (.load cause') ∧
    cause.message = "invalid JSON (" ++ (Json.ParseError.malformed .propertyName 2 2 4).message ++ ")" ∧
    cause'.message = "flows/broken.json: invalid JSON (" ++
      (Json.ParseError.malformed .propertyName line column position).message ++ ")" := by
  have hread : brokenOff.read (Path.ofText "flows/./broken.json") = .ok (Utf8.encode "\x7b\r\n\r") := rfl
  have hparse : Json.parse "\x7b\r\n\r" = .error (.malformed .propertyName 2 2 4) := by cbv
  obtain ⟨-, -, -, hmalformed⟩ := pipeline_agrees_with_ofText hread
  exact hmalformed _ _ _ _ hparse

end FileTree

end Dataflow
