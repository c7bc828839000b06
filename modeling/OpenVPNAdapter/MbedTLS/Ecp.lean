import OpenVPNAdapter.MbedTLS.Bignum

namespace OpenVPNAdapter.MbedTLS

open Library.BigEndian

/-- The curves that a key can name. -/
inductive EcpGroupId
  | secp192r1
  | secp224r1
  | secp256r1
  | secp384r1
  | secp521r1
  | secp192k1
  | secp224k1
  | secp256k1
  | bp256r1
  | bp384r1
  | bp512r1
deriving DecidableEq, Repr

/-- The field, the equation and the order of the base point. -/
structure EcpGroup where
  p : Nat
  a : Nat
  b : Nat
  n : Nat
deriving DecidableEq, Repr

/-- Without an `A` the group has -3. -/
def EcpGroup.withoutA (p b n : Nat) : EcpGroup := ⟨p, p - 3, b, n⟩

def ecpGroupLoad : EcpGroupId → EcpGroup
  | .secp192r1 => .withoutA
      0xfffffffffffffffffffffffffffffffeffffffffffffffff
      0x64210519e59c80e70fa7e9ab72243049feb8deecc146b9b1
      0xffffffffffffffffffffffff99def836146bc9b1b4d22831
  | .secp224r1 => .withoutA
      0xffffffffffffffffffffffffffffffff000000000000000000000001
      0xb4050a850c04b3abf54132565044b0b7d7bfd8ba270b39432355ffb4
      0xffffffffffffffffffffffffffff16a2e0b8f03e13dd29455c5c2a3d
  | .secp256r1 => .withoutA
      0xffffffff00000001000000000000000000000000ffffffffffffffffffffffff
      0x5ac635d8aa3a93e7b3ebbd55769886bc651d06b0cc53b0f63bce3c3e27d2604b
      0xffffffff00000000ffffffffffffffffbce6faada7179e84f3b9cac2fc632551
  | .secp384r1 => .withoutA
      0xfffffffffffffffffffffffffffffffffffffffffffffffffffffffffffffffeffffffff0000000000000000ffffffff
      0xb3312fa7e23ee7e4988e056be3f82d19181d9c6efe8141120314088f5013875ac656398d8a2ed19d2a85c8edd3ec2aef
      0xffffffffffffffffffffffffffffffffffffffffffffffffc7634d81f4372ddf581a0db248b0a77aecec196accc52973
  | .secp521r1 => .withoutA
      0x1ffffffffffffffffffffffffffffffffffffffffffffffffffffffffffffffffffffffffffffffffffffffffffffffffffffffffffffffffffffffffffffffffff
      0x51953eb9618e1c9a1f929a21a0b68540eea2da725b99b315f3b8b489918ef109e156193951ec7e937b1652c0bd3bb1bf073573df883d2c34f1ef451fd46b503f00
      0x1fffffffffffffffffffffffffffffffffffffffffffffffffffffffffffffffffa51868783bf2f966b7fcc0148f709a5d03bb5c9b8899c47aebb6fb71e91386409
  | .secp192k1 => .mk
      0xfffffffffffffffffffffffffffffffffffffffeffffee37
      0x0
      0x3
      0xfffffffffffffffffffffffe26f2fc170f69466a74defd8d
  | .secp224k1 => .mk
      0xfffffffffffffffffffffffffffffffffffffffffffffffeffffe56d
      0x0
      0x5
      0x10000000000000000000000000001dce8d2ec6184caf0a971769fb1f7
  | .secp256k1 => .mk
      0xfffffffffffffffffffffffffffffffffffffffffffffffffffffffefffffc2f
      0x0
      0x7
      0xfffffffffffffffffffffffffffffffebaaedce6af48a03bbfd25e8cd0364141
  | .bp256r1 => .mk
      0xa9fb57dba1eea9bc3e660a909d838d726e3bf623d52620282013481d1f6e5377
      0x7d5a0975fc2c3057eef67530417affe7fb8055c126dc5c6ce94a4b44f330b5d9
      0x26dc5c6ce94a4b44f330b5d9bbd77cbf958416295cf7e1ce6bccdc18ff8c07b6
      0xa9fb57dba1eea9bc3e660a909d838d718c397aa3b561a6f7901e0e82974856a7
  | .bp384r1 => .mk
      0x8cb91e82a3386d280f5d6f7e50e641df152f7109ed5456b412b1da197fb71123acd3a729901d1a71874700133107ec53
      0x7bc382c63d8c150c3c72080ace05afa0c2bea28e4fb22787139165efba91f90f8aa5814a503ad4eb04a8c7dd22ce2826
      0x4a8c7dd22ce28268b39b55416f0447c2fb77de107dcd2a62e880ea53eeb62d57cb4390295dbc9943ab78696fa504c11
      0x8cb91e82a3386d280f5d6f7e50e641df152f7109ed5456b31f166e6cac0425a7cf3ab6af6b7fc3103b883202e9046565
  | .bp512r1 => .mk
      0xaadd9db8dbe9c48b3fd4e6ae33c9fc07cb308db3b3c9d20ed6639cca703308717d4d9b009bc66842aecda12ae6a380e62881ff2f2d82c68528aa6056583a48f3
      0x7830a3318b603b89e2327145ac234cc594cbdd8d3df91610a83441caea9863bc2ded5d5aa8253aa10a2ef1c98b9ac8b57f1117a72bf2c7b9e7c1ac4d77fc94ca
      0x3df91610a83441caea9863bc2ded5d5aa8253aa10a2ef1c98b9ac8b57f1117a72bf2c7b9e7c1ac4d77fc94cadc083e67984050b75ebae5dd2809bd638016f723
      0xaadd9db8dbe9c48b3fd4e6ae33c9fc07cb308db3b3c9d20ed6639cca70330870553e5c414ca92619418661197fac10471db1d381085ddaddb58796829ca90069

/-- The identifiers in the table `oid_ecp_grp`. -/
def ecGrpOid : EcpGroupId → Bytes
  | .secp192r1 => [0x2A, 0x86, 0x48, 0xCE, 0x3D, 0x03, 0x01, 0x01]
  | .secp224r1 => [0x2B, 0x81, 0x04, 0x00, 0x21]
  | .secp256r1 => [0x2A, 0x86, 0x48, 0xCE, 0x3D, 0x03, 0x01, 0x07]
  | .secp384r1 => [0x2B, 0x81, 0x04, 0x00, 0x22]
  | .secp521r1 => [0x2B, 0x81, 0x04, 0x00, 0x23]
  | .secp192k1 => [0x2B, 0x81, 0x04, 0x00, 0x1F]
  | .secp224k1 => [0x2B, 0x81, 0x04, 0x00, 0x20]
  | .secp256k1 => [0x2B, 0x81, 0x04, 0x00, 0x0A]
  | .bp256r1 => [0x2B, 0x24, 0x03, 0x03, 0x02, 0x08, 0x01, 0x01, 0x07]
  | .bp384r1 => [0x2B, 0x24, 0x03, 0x03, 0x02, 0x08, 0x01, 0x01, 0x0B]
  | .bp512r1 => [0x2B, 0x24, 0x03, 0x03, 0x02, 0x08, 0x01, 0x01, 0x0D]

def ecpGrpIds : List EcpGroupId :=
  [.secp192r1, .secp224r1, .secp256r1, .secp384r1, .secp521r1,
   .secp192k1, .secp224k1, .secp256k1, .bp256r1, .bp384r1, .bp512r1]

def oidGetEcGrp (oid : Bytes) : Option EcpGroupId := ecpGrpIds.find? (ecGrpOid · = oid)

/-- A point with `Z` one, or the one with `Z` zero. -/
inductive EcpPoint
  | zero
  | affine (x y : Nat)
deriving DecidableEq, Repr

/-- `mbedtls_ecp_keypair`, once its group is known. -/
structure EcpKeypair where
  grp : EcpGroupId
  d : Nat
  q : EcpPoint
deriving DecidableEq, Repr

/-- `mbedtls_mpi_size( &grp->P )`, and the same as `( grp->pbits + 7 ) / 8`. -/
def EcpGroupId.plen (grp : EcpGroupId) : Nat := byteLength (ecpGroupLoad grp).p

/-- The group may not be known yet; its `P` is then zero. -/
def ecpPointReadBinary (grp : Option EcpGroupId) : Bytes → Except Failure EcpPoint
  | [] => .error .ecpBadInputData
  | b :: buf =>
      let plen := (grp.map EcpGroupId.plen).getD 0
      if b = 0x00 then if buf = [] then .ok .zero else .error .ecpBadInputData
      else if b ≠ 0x04 then .error .ecpFeatureUnavailable
      else if buf.length ≠ 2 * plen then .error .ecpBadInputData
      else do
        let x ← mpiReadBinary (buf.take plen)
        let y ← mpiReadBinary (buf.drop plen)
        .ok (.affine x y)

/-- `mbedtls_ecp_point_write_binary` for `MBEDTLS_ECP_PF_UNCOMPRESSED`. -/
def ecpPointWriteBinary (grp : EcpGroupId) (pt : EcpPoint) (buflen : Nat) : Except Failure Bytes :=
  match pt with
  | .zero => if buflen < 1 then .error .ecpBufferTooSmall else .ok [0x00]
  | .affine x y =>
      if buflen < 2 * grp.plen + 1 then .error .ecpBufferTooSmall
      else do
        let x ← mpiWriteBinary x grp.plen
        let y ← mpiWriteBinary y grp.plen
        .ok (0x04 :: (x ++ y))

def ecpCheckPubkeySw (grp : EcpGroup) (x y : Nat) : Except Failure Unit :=
  if x ≥ grp.p ∨ y ≥ grp.p then .error .ecpInvalidKey
  else if y * y % grp.p ≠ ((x * x + grp.a) * x + grp.b) % grp.p then .error .ecpInvalidKey
  else .ok ()

def ecpCheckPubkey (grp : Option EcpGroupId) : EcpPoint → Except Failure Unit
  | .zero => .error .ecpInvalidKey
  | .affine x y => match grp with
    | none => .error .ecpBadInputData
    | some grp => ecpCheckPubkeySw (ecpGroupLoad grp) x y

def ecpCheckPrivkey (grp : EcpGroupId) (d : Nat) : Except Failure Unit :=
  if d < 1 ∨ d ≥ (ecpGroupLoad grp).n then .error .ecpInvalidKey else .ok ()

/-- `mbedtls_ecp_mul` of the base point of a group. -/
abbrev EcpMul := EcpGroupId → Nat → Except Failure EcpPoint

theorem oidGetEcGrp_ecGrpOid (grp : EcpGroupId) : oidGetEcGrp (ecGrpOid grp) = some grp := by
  cases grp <;> rfl

theorem length_ecGrpOid (grp : EcpGroupId) : (ecGrpOid grp).length ≤ 9 := by
  cases grp <;> decide

/-- Every curve has coordinates of 24 to 66 bytes. -/
theorem plen_bounds (grp : EcpGroupId) : 24 ≤ grp.plen ∧ grp.plen ≤ 66 := by
  constructor
  · by_contra h
    have hlt :=
        byteLength_le_iff.mp (show byteLength (ecpGroupLoad grp).p ≤ 23 from Nat.le_of_lt_succ (Nat.not_le.mp h))
    revert hlt
    cases grp <;> decide
  · refine byteLength_le_iff.mpr ?_
    cases grp <;> decide

/-- A point that is checked is affine and its coordinates fit their bytes. -/
theorem ecpCheckPubkey_eq_ok {grp : EcpGroupId} {pt : EcpPoint} (h : ecpCheckPubkey (some grp) pt = .ok ()) :
    ∃ x y, pt = .affine x y ∧ x < 256 ^ grp.plen ∧ y < 256 ^ grp.plen := by
  cases pt with
  | zero => cases h
  | affine x y =>
      have hp : (ecpGroupLoad grp).p < 256 ^ grp.plen := lt_pow_byteLength _
      rw [ecpCheckPubkey, ecpCheckPubkeySw] at h
      split at h
      · cases h
      · exact ⟨x, y, rfl, by omega, by omega⟩

theorem ecpPointWriteBinary_eq {grp : EcpGroupId} {x y buflen : Nat} (hx : x < 256 ^ grp.plen)
    (hy : y < 256 ^ grp.plen) (hlen : 2 * grp.plen + 1 ≤ buflen) :
    ecpPointWriteBinary grp (.affine x y) buflen = .ok (0x04 :: (digits grp.plen x ++ digits grp.plen y)) := by
  simp only [ecpPointWriteBinary, mpiWriteBinary, if_pos hx, if_pos hy, if_neg (Nat.not_lt.mpr hlen)]
  rfl

theorem ecpPointReadBinary_digits {grp : EcpGroupId} {x y : Nat} (hx : x < 256 ^ grp.plen)
    (hy : y < 256 ^ grp.plen) :
    ecpPointReadBinary (some grp) (0x04 :: (digits grp.plen x ++ digits grp.plen y)) = .ok (.affine x y) := by
  have hshort := (plen_bounds grp).2
  have hlen (k : Nat) : (digits grp.plen k).length ≤ 80000 := by rw [length_digits]; omega
  simp only [ecpPointReadBinary, Option.map_some, Option.getD_some]
  rw [if_neg (by decide), if_neg (by decide), if_neg (by simp only [List.length_append, length_digits]; omega),
    List.take_left' (length_digits _ x), List.drop_left' (length_digits _ x), mpiReadBinary_of_le (hlen x),
    mpiReadBinary_of_le (hlen y), value_digits hx, value_digits hy]
  rfl

end OpenVPNAdapter.MbedTLS
