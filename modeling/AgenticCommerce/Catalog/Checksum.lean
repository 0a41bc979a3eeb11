/-
# The checksum of an import

`compute_file_checksum` of `services/catalog/service.py` digests the bytes of its files one after
the other, with nothing between them.  Files whose bytes are cut elsewhere have one checksum, and
an import of them is taken for one that was already done (`checksum_iff`).
-/

import AgenticCommerce.Catalog.Service

namespace AgenticCommerce
namespace Catalog

open Relational

/-- The two files of an import, both of them there. -/
def filesOf (products offers : List UInt8) : Artifacts := ⟨some products, some offers⟩

/-- The imports that were run are imports of the files. -/
def Ran (env : Env) (files : Artifacts) (db : Database) : Prop :=
  ∀ r ∈ db.importRuns, r.sourceChecksum = files.checksum env

variable {env : Env}

/-- An import that is skipped has the checksum of a run. -/
theorem checksum_of_importedBefore {x : Import} {db : Database} {files : Artifacts}
    (hran : Ran x.env files db) (hskipped : (importedBefore x db).isSome = true) :
    x.files.checksum x.env = files.checksum x.env := by
  rw [importedBefore] at hskipped
  cases hrun : db.importRuns.first fun r =>
      r.merchantId == x.merchantId && r.sourceChecksum == x.files.checksum x.env with
  | none =>
      rw [hrun] at hskipped
      exact absurd hskipped Bool.false_ne_true
  | some r =>
      obtain ⟨hr, hmatch⟩ := Table.first_eq_some hrun
      rw [Bool.and_eq_true, beq_iff_eq, beq_iff_eq] at hmatch
      exact hmatch.2.symm.trans (hran r hr)

/-- **When a checksum tells files apart**: under a digest without collisions, equal checksums mean
equal files, and an import that is skipped has the files of the one before, exactly when files of
the same bytes in a row are cut at the same place. -/
theorem checksum_iff (hdigest : Function.Injective env.bodyHash)
    (products offers products' offers' : List UInt8) :
    (((filesOf products offers).checksum env = (filesOf products' offers').checksum env →
        products = products' ∧ offers = offers') ∧
      ∀ (x : Import) (db : Database), x.env = env → x.files = filesOf products offers →
        Ran env (filesOf products' offers') db → (importedBefore x db).isSome = true →
          products = products' ∧ offers = offers') ↔
    (products ++ offers = products' ++ offers' → products.length = products'.length) := by
  have hchecksum : (filesOf products offers).checksum env =
      (filesOf products' offers').checksum env ↔ products ++ offers = products' ++ offers' :=
    hdigest.eq_iff
  constructor
  · rintro ⟨hsame, -⟩ hbytes
    rw [(hsame (hchecksum.2 hbytes)).1]
  · intro hcut
    have hsame (h : (filesOf products offers).checksum env =
        (filesOf products' offers').checksum env) : products = products' ∧ offers = offers' := by
      have hbytes := hchecksum.1 h
      exact List.append_inj hbytes (hcut hbytes)
    refine ⟨hsame, ?_⟩
    rintro x db rfl hfiles hran hskipped
    refine hsame ?_
    rw [← hfiles]
    exact checksum_of_importedBefore hran hskipped

/-! ### A line that moves to the other file -/

/-- The digest of bytes that is their text. -/
def byteText (bytes : List UInt8) : String := String.ofList (bytes.map fun b => Char.ofNat b.toNat)

theorem toNat_byte (b : UInt8) : (Char.ofNat b.toNat).toNat = b.toNat := by
  have hb := b.toNat_lt
  have hvalid : b.toNat.isValidChar := .inl (by omega)
  rw [Char.ofNat, dif_pos hvalid]
  rfl

theorem byteText_injective : Function.Injective byteText := by
  have hbyte : Function.Injective fun b : UInt8 => Char.ofNat b.toNat := fun b c h => by
    have hnat := congrArg Char.toNat h
    rw [toNat_byte, toNat_byte] at hnat
    exact UInt8.toNat_inj.1 hnat
  exact fun bytes bytes' h => List.map_injective_iff.2 hbyte (String.ofList_injective h)

/-- An environment whose digest is the text. -/
def textEnv : Env := { (default : Env) with bodyHash := byteText }

/-- Files that differ in their last bytes, by `checksum_iff`. -/
theorem checksum_other_bytes :
    (((filesOf [1, 2] [3]).checksum textEnv = (filesOf [1] [4]).checksum textEnv →
        ([1, 2] : List UInt8) = [1] ∧ ([3] : List UInt8) = [4]) ∧
      ∀ (x : Import) (db : Database), x.env = textEnv → x.files = filesOf [1, 2] [3] →
        Ran textEnv (filesOf [1] [4]) db → (importedBefore x db).isSome = true →
          ([1, 2] : List UInt8) = [1] ∧ ([3] : List UInt8) = [4]) ↔
    (([1, 2] : List UInt8) ++ [3] = [1] ++ [4] → [1, 2].length = [1].length) :=
  checksum_iff byteText_injective [1, 2] [3] [1] [4]

/-- **The second line of the products, moved to the offers, leaves the checksum as it is.** -/
theorem moved_line_same_checksum : ¬ ∀ (env : Env), Function.Injective env.bodyHash →
    ∀ products offers products' offers' : List UInt8,
      (filesOf products offers).checksum env = (filesOf products' offers').checksum env →
        products = products' ∧ offers = offers' := by
  intro h
  -- `{}` and a new line, twice over in the products, or once in each file
  have hsame := h textEnv byteText_injective
    [0x7B, 0x7D, 0x0A, 0x7B, 0x7D, 0x0A] [] [0x7B, 0x7D, 0x0A] [0x7B, 0x7D, 0x0A] rfl
  exact absurd hsame.1 (by decide)

end Catalog
end AgenticCommerce
