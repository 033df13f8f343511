import XochiSdk.Signer.Escrow
import XochiSdk.Signer.TypedData

/-!
# Digests of the escrow family

`packages/signer/src/escrow.ts`: OpenAuth, FillAuth, FillAttestation, SlashAttestation and
FillAcceptance, each hashed by hand and, apart from that, handed to a wallet as typed data.
-/

namespace XochiSdk.Signer

open XochiSdk.Js XochiSdk.Library

/-- The chain and address of a contract of the family (`OpenAuthDomain`). -/
structure EscrowContractDomain where
  chainId : UintLike
  verifyingContract : String

def namedDomain (name version : String) (domain : EscrowContractDomain) : Xsp TypedDomain := do
  let chainId ← toUint "domain.chainId" domain.chainId
  pure { name, version, chainId, verifyingContract := domain.verifyingContract }

section Hashes

variable [Ethers] [AddressCoder]

/-- A domain separator by its contract's name and version. -/
def namedSeparator (name version : String) (domain : EscrowContractDomain) : Xsp Word := do
  hashDomain (← namedDomain name version domain)

/-! ## OpenAuth -/

def openAuthDomainName : String := "RiddlerEscrow"
def openAuthDomainVersion : String := "1"

def openAuthTypeString : String := "OpenAuth(bytes32 orderId,uint256 expiry)"

def openAuthFields : List TypedField := [⟨"orderId", .bytes32⟩, ⟨"expiry", .uint256⟩]

def openAuthDomainSeparator (domain : EscrowContractDomain) : Xsp Word :=
  namedSeparator openAuthDomainName openAuthDomainVersion domain

def openAuthWords (orderId : String) (expiry : UintLike) : Xsp (List Word) := do
  let expiry ← toUint "expiry" expiry
  let orderId ← xspBytes32 orderId
  pure [ethersId openAuthTypeString, orderId, uintWord expiry]

def openAuthDigest (domain : EscrowContractDomain) (orderId : String) (expiry : UintLike) :
    Xsp Word := do
  let separator ← openAuthDomainSeparator domain
  let words ← openAuthWords orderId expiry
  pure (typedDigest separator (hashWords words))

/-- What `signOpenAuth` has the wallet sign. -/
def openAuthTypedData (domain : EscrowContractDomain) (orderId : String) (expiry : UintLike) :
    Xsp TypedData := do
  let domain ← namedDomain openAuthDomainName openAuthDomainVersion domain
  let expiry ← toUint "expiry" expiry
  pure
    { domain, primaryType := "OpenAuth", fields := openAuthFields
      value := [("orderId", .text orderId), ("expiry", .bigint expiry)] }

/-! ## FillAuth -/

structure FillAuth where
  fillId : String
  filler : String
  to_ : String
  token : String
  amount : UintLike
  deadline : UintLike

def fillAuthDomainName : String := "RiddlerFiller"
def fillAuthDomainVersion : String := "1"

def fillAuthTypeString : String :=
  "FillAuth(bytes32 fillId,address filler,address to,address token,uint256 amount,uint256 deadline)"

def fillAuthFields : List TypedField :=
  [⟨"fillId", .bytes32⟩, ⟨"filler", .address⟩, ⟨"to", .address⟩, ⟨"token", .address⟩,
    ⟨"amount", .uint256⟩, ⟨"deadline", .uint256⟩]

def fillAuthDomainSeparator (domain : EscrowContractDomain) : Xsp Word :=
  namedSeparator fillAuthDomainName fillAuthDomainVersion domain

def fillAuthWords (a : FillAuth) : Xsp (List Word) := do
  let amount ← toUint "amount" a.amount
  let deadline ← toUint "deadline" a.deadline
  let fillId ← xspBytes32 a.fillId
  let filler ← xspAddress (asciiLower a.filler)
  let to_ ← xspAddress (asciiLower a.to_)
  let token ← xspAddress (asciiLower a.token)
  pure [ethersId fillAuthTypeString, fillId, filler, to_, token, uintWord amount,
    uintWord deadline]

def fillAuthDigest (domain : EscrowContractDomain) (a : FillAuth) : Xsp Word := do
  let separator ← fillAuthDomainSeparator domain
  let words ← fillAuthWords a
  pure (typedDigest separator (hashWords words))

/-- What `signFillAuth` has the wallet sign. -/
def fillAuthTypedData (domain : EscrowContractDomain) (a : FillAuth) : Xsp TypedData := do
  let domain ← namedDomain fillAuthDomainName fillAuthDomainVersion domain
  let amount ← toUint "amount" a.amount
  let deadline ← toUint "deadline" a.deadline
  pure
    { domain, primaryType := "FillAuth", fields := fillAuthFields
      value := [("fillId", .text a.fillId), ("filler", .text a.filler), ("to", .text a.to_),
        ("token", .text a.token), ("amount", .bigint amount), ("deadline", .bigint deadline)] }

/-! ## FillAttestation -/

def fillAttestationDomainName : String := "RiddlerFillAttestation"
def fillAttestationDomainVersion : String := "1"

def fillAttestationTypeString : String := "FillAttestation(bytes32 orderId,address payee)"

def fillAttestationFields : List TypedField := [⟨"orderId", .bytes32⟩, ⟨"payee", .address⟩]

def fillAttestationDomainSeparator (domain : EscrowContractDomain) : Xsp Word :=
  namedSeparator fillAttestationDomainName fillAttestationDomainVersion domain

def fillAttestationWords (orderId payee : String) : Xsp (List Word) := do
  let orderId ← xspBytes32 orderId
  let payee ← xspAddress (asciiLower payee)
  pure [ethersId fillAttestationTypeString, orderId, payee]

def fillAttestationDigest (domain : EscrowContractDomain) (orderId payee : String) :
    Xsp Word := do
  let separator ← fillAttestationDomainSeparator domain
  let words ← fillAttestationWords orderId payee
  pure (typedDigest separator (hashWords words))

/-- What `signFillAttestation` has the wallet sign. -/
def fillAttestationTypedData (domain : EscrowContractDomain) (orderId payee : String) :
    Xsp TypedData := do
  let domain ← namedDomain fillAttestationDomainName fillAttestationDomainVersion domain
  pure
    { domain, primaryType := "FillAttestation", fields := fillAttestationFields
      value := [("orderId", .text orderId), ("payee", .text payee)] }

/-! ## The solver bond's two structs -/

def solverBondDomainName : String := "RiddlerSolverBond"
def solverBondDomainVersion : String := "2"

structure SlashClaim where
  orderId : String
  solver : String
  beneficiary : String
  notional : UintLike
  originChainId : UintLike
  escrow : String
  deadline : UintLike

def slashAttestationTypeString : String :=
  "SlashAttestation(bytes32 orderId,address solver,address beneficiary,uint256 notional," ++
  "uint256 originChainId,address escrow,uint256 deadline)"

def slashAttestationFields : List TypedField :=
  [⟨"orderId", .bytes32⟩, ⟨"solver", .address⟩, ⟨"beneficiary", .address⟩, ⟨"notional", .uint256⟩,
    ⟨"originChainId", .uint256⟩, ⟨"escrow", .address⟩, ⟨"deadline", .uint256⟩]

def slashAttestationDomainSeparator (domain : EscrowContractDomain) : Xsp Word :=
  namedSeparator solverBondDomainName solverBondDomainVersion domain

def slashAttestationWords (c : SlashClaim) : Xsp (List Word) := do
  let notional ← toUint "notional" c.notional
  let originChainId ← toUint "originChainId" c.originChainId
  let deadline ← toUint "deadline" c.deadline
  let orderId ← xspBytes32 c.orderId
  let solver ← xspAddress (asciiLower c.solver)
  let beneficiary ← xspAddress (asciiLower c.beneficiary)
  let escrow ← xspAddress (asciiLower c.escrow)
  pure [ethersId slashAttestationTypeString, orderId, solver, beneficiary, uintWord notional,
    uintWord originChainId, escrow, uintWord deadline]

def slashAttestationDigest (domain : EscrowContractDomain) (c : SlashClaim) : Xsp Word := do
  let separator ← slashAttestationDomainSeparator domain
  let words ← slashAttestationWords c
  pure (typedDigest separator (hashWords words))

/-- What `signSlashAttestation` has the wallet sign. -/
def slashAttestationTypedData (domain : EscrowContractDomain) (c : SlashClaim) :
    Xsp TypedData := do
  let domain ← namedDomain solverBondDomainName solverBondDomainVersion domain
  let notional ← toUint "notional" c.notional
  let originChainId ← toUint "originChainId" c.originChainId
  let deadline ← toUint "deadline" c.deadline
  pure
    { domain, primaryType := "SlashAttestation", fields := slashAttestationFields
      value := [("orderId", .text c.orderId), ("solver", .text c.solver),
        ("beneficiary", .text c.beneficiary), ("notional", .bigint notional),
        ("originChainId", .bigint originChainId), ("escrow", .text c.escrow),
        ("deadline", .bigint deadline)] }

structure FillAcceptance where
  orderId : String
  originChainId : UintLike
  escrow : String
  filler : String
  deadline : UintLike
  fillAuth : String

def fillAcceptanceTypeString : String :=
  "FillAcceptance(bytes32 orderId,uint256 originChainId,address escrow,address filler," ++
  "uint256 deadline,bytes32 fillAuth)"

def fillAcceptanceFields : List TypedField :=
  [⟨"orderId", .bytes32⟩, ⟨"originChainId", .uint256⟩, ⟨"escrow", .address⟩, ⟨"filler", .address⟩,
    ⟨"deadline", .uint256⟩, ⟨"fillAuth", .bytes32⟩]

def fillAcceptanceDomainSeparator (domain : EscrowContractDomain) : Xsp Word :=
  namedSeparator solverBondDomainName solverBondDomainVersion domain

def fillAcceptanceWords (a : FillAcceptance) : Xsp (List Word) := do
  let orderId ← normalizeBytes32 "orderId" a.orderId
  let originChainId ← toUint "originChainId" a.originChainId
  let deadline ← toUint "deadline" a.deadline
  let fillAuth ← normalizeBytes32 "fillAuth" a.fillAuth
  let escrow ← xspAddress (asciiLower a.escrow)
  let filler ← xspAddress (asciiLower a.filler)
  pure [ethersId fillAcceptanceTypeString, orderId, uintWord originChainId, escrow, filler,
    uintWord deadline, fillAuth]

def fillAcceptanceDigest (domain : EscrowContractDomain) (a : FillAcceptance) : Xsp Word := do
  let separator ← fillAcceptanceDomainSeparator domain
  let words ← fillAcceptanceWords a
  pure (typedDigest separator (hashWords words))

/-- What `signFillAcceptance` has the wallet sign: its hashes in their normal text. -/
def fillAcceptanceTypedData (domain : EscrowContractDomain) (a : FillAcceptance) :
    Xsp TypedData := do
  let domain ← namedDomain solverBondDomainName solverBondDomainVersion domain
  let orderId ← normalizeBytes32 "orderId" a.orderId
  let originChainId ← toUint "originChainId" a.originChainId
  let deadline ← toUint "deadline" a.deadline
  let fillAuth ← normalizeBytes32 "fillAuth" a.fillAuth
  pure
    { domain, primaryType := "FillAcceptance", fields := fillAcceptanceFields
      value := [("orderId", .text (hexlify orderId.bytes)),
        ("originChainId", .bigint originChainId), ("escrow", .text a.escrow),
        ("filler", .text a.filler), ("deadline", .bigint deadline),
        ("fillAuth", .text (hexlify fillAuth.bytes))] }

end Hashes

/-! ## The family -/

inductive EscrowMessage where
  | openAuth (orderId : String) (expiry : UintLike)
  | fillAuth (a : FillAuth)
  | fillAttestation (orderId payee : String)
  | slashAttestation (c : SlashClaim)
  | fillAcceptance (a : FillAcceptance)

namespace EscrowMessage

/-- The hand-encoded digest under a contract's domain. -/
def digest [Ethers] [AddressCoder] (domain : EscrowContractDomain) : EscrowMessage → Xsp Word
  | .openAuth orderId expiry => openAuthDigest domain orderId expiry
  | .fillAuth a => fillAuthDigest domain a
  | .fillAttestation orderId payee => fillAttestationDigest domain orderId payee
  | .slashAttestation c => slashAttestationDigest domain c
  | .fillAcceptance a => fillAcceptanceDigest domain a

/-- What the matching signing function has the wallet sign. -/
def typedData (domain : EscrowContractDomain) : EscrowMessage → Xsp TypedData
  | .openAuth orderId expiry => openAuthTypedData domain orderId expiry
  | .fillAuth a => fillAuthTypedData domain a
  | .fillAttestation orderId payee => fillAttestationTypedData domain orderId payee
  | .slashAttestation c => slashAttestationTypedData domain c
  | .fillAcceptance a => fillAcceptanceTypedData domain a

end EscrowMessage

end XochiSdk.Signer
