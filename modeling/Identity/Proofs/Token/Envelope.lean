/-
Identity/Proofs/Token/Envelope.lean

A token without a footer is taken apart into what it was made of: the points of
its header are the only ones in its text, and its signature has a fixed length.
-/
import Identity.Proofs.Text.Base64
import Identity.Token.Envelope

namespace Identity.Token.Envelope

variable {payload signature : Bytes}

/-- The text of a token falls into its header and its body. -/
theorem splitOn_text (payload signature : Bytes) :
    (text payload signature).toList.splitOn '.' =
      headerParts ++ [Base64.encodeCompactChars (payload ++ signature)] := by
  have hbody : '.' ∉ Base64.encodeCompactChars (payload ++ signature) := fun hmem =>
    absurd (Base64.forall_mem_urlSafe _ _ hmem) (by decide)
  have htext : (text payload signature).toList =
      ['v', '4'] ++ '.' :: (['p', 'u', 'b', 'l', 'i', 'c'] ++
        '.' :: Base64.encodeCompactChars (payload ++ signature)) := by
    rw [text, String.toList_append, Base64.encodeCompact, String.toList_ofList]
    rfl
  rw [htext, List.splitOn_append_cons_self, List.splitOn_append_cons_self,
    List.splitOn_eq_singleton hbody]
  rfl

theorem part_encodeCompactChars (bytes : Bytes) :
    part (Base64.encodeCompactChars bytes) = .ok bytes := by
  rw [part, Base64.decodeCompactChars_encodeCompactChars]

/-- A body that holds a payload and a signature is cut between them. -/
theorem ofParts_encodeCompactChars (hpayload : payload ≠ [])
    (hsignature : signature.length = signatureLength) (footer : Bytes) :
    ofParts (Base64.encodeCompactChars (payload ++ signature)) (Base64.encodeCompactChars footer) =
      .ok ⟨payload, signature, footer⟩ := by
  have hdecode := Base64.decodeCompactChars_encodeCompactChars (payload ++ signature)
  have hbody : Base64.encodeCompactChars (payload ++ signature) ≠ [] := by
    intro hempty
    rw [hempty, Base64.decodeCompactChars, Option.some.injEq] at hdecode
    exact hpayload (List.append_eq_nil_iff.mp hdecode.symm).1
  have hlength : ¬(payload ++ signature).length ≤ signatureLength := by
    have hpos := List.length_pos_iff.mpr hpayload
    rw [List.length_append, hsignature]
    omega
  have hcut : (payload ++ signature).length - signatureLength = payload.length := by
    rw [List.length_append, hsignature, Nat.add_sub_cancel]
  rw [ofParts, if_neg (by rwa [List.isEmpty_iff]), part_encodeCompactChars]
  refine (if_neg hlength).trans ?_
  rw [part_encodeCompactChars]
  refine congrArg Except.ok ?_
  rw [hcut, List.take_left, List.drop_left]

/-- A token is taken apart into its payload and its signature. -/
theorem parse_text (hpayload : payload ≠ []) (hsignature : signature.length = signatureLength) :
    parse (text payload signature) = .ok ⟨payload, signature, []⟩ := by
  rw [parse, splitOn_text]
  exact ofParts_encodeCompactChars hpayload hsignature []

end Identity.Token.Envelope
