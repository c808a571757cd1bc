import GhostRecon.Lib.Table

/-!
The prospect tables: accounts, contacts, CRM targets and generated email
addresses. Columns that no modelled operation reads or writes are left out.
-/

namespace GhostRecon

open Lib (Id)

/-- Whole seconds since the epoch. -/
abbrev Time := Nat

structure Account where
  crmAccountId : Option String := none
  domain : Option String := none
  companyName : String
  deriving DecidableEq, Repr

structure Contact where
  crmContactId : Option String := none
  accountId : Option Id := none
  fullName : String
  title : Option String := none
  email : Option String := none
  emailStatus : Option String := none
  doNotContactFlag : Bool := false
  lawfulBasis : Option String := none
  sourceUrl : Option String := none
  sourceDefinitionId : Option Id := none
  sourceItemIds : List Id := []
  originType : Option String := none
  originId : Option String := none
  idempotencyKey : Option String := none
  version : Nat := 1
  updatedAt : Time := 0
  deriving DecidableEq, Repr

inductive CrmTargetStatus where
  | pendingExport | invalidated | exported
  deriving DecidableEq, Repr

/-- `export_status` is free text: the update request accepts any short string. -/
structure CrmTarget where
  reviewCandidateId : Option Id := none
  reviewDecisionId : Option Id := none
  targetType : String
  targetId : Id
  originType : Option String := none
  originId : Option String := none
  sourceDefinitionId : Option Id := none
  sourceItemIds : List Id := []
  status : CrmTargetStatus := .pendingExport
  exportStatus : String := "not_exported"
  idempotencyKey : String
  version : Nat := 1
  updatedAt : Time := 0
  deriving DecidableEq, Repr

inductive VerificationStatus where
  | pending | verified | needsReview | failed | invalid
  deriving DecidableEq, Repr

structure EmailCandidateRecord where
  contactId : Option Id
  email : String
  pattern : String
  verificationStatus : VerificationStatus := .pending
  verificationCheckedAt : Option Time := none
  sourceDefinitionId : Option Id := none
  sourceItemIds : List Id := []
  originType : Option String := none
  originId : Option String := none
  reviewStatus : String := "not_required"
  reviewReason : Option String := none
  idempotencyKey : String
  version : Nat := 1
  deriving DecidableEq, Repr

end GhostRecon
