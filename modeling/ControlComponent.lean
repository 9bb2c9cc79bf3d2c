import ControlComponent.Bytes
import ControlComponent.CardLocks
import ControlComponent.Certificate
import ControlComponent.Cipher.Aes
import ControlComponent.Cipher.Gcm
import ControlComponent.CommandLine.Command
import ControlComponent.CommandLine.Disk
import ControlComponent.CommandLine.Grammar
import ControlComponent.CommandLine.Keys
import ControlComponent.CommandLine.Path
import ControlComponent.CommandLine.Process
import ControlComponent.CommandLine.Run
import ControlComponent.CommandLine.Script
import ControlComponent.CommandLine.Surroundings
import ControlComponent.Derivation.Argon2i
import ControlComponent.Derivation.Hkdf
import ControlComponent.ElGamal
import ControlComponent.Error
import ControlComponent.Group.Basic
import ControlComponent.Group.Element
import ControlComponent.Hash.Blake2b
import ControlComponent.Hash.Sha256
import ControlComponent.Hash.Sha512
import ControlComponent.HashTree
import ControlComponent.Key.Contents
import ControlComponent.Key.Fault
import ControlComponent.Key.Keyring
import ControlComponent.Key.Service
import ControlComponent.Key.Vault
import ControlComponent.Log
import ControlComponent.Main
import ControlComponent.Message.Computation
import ControlComponent.Message.Field
import ControlComponent.Message.Generation
import ControlComponent.Message.Kind
import ControlComponent.Message.Vote
import ControlComponent.Modular
import ControlComponent.Node.Basic
import ControlComponent.Node.Decryption
import ControlComponent.Node.Exponentiation
import ControlComponent.Node.Generation
import ControlComponent.Node.Refusal
import ControlComponent.Node.Statement
import ControlComponent.Node.Step
import ControlComponent.Node.VoteCheck
import ControlComponent.Power
import ControlComponent.Proof.Basic
import ControlComponent.Proof.Exponentiation
import ControlComponent.Proof.PlaintextEquality
import ControlComponent.Proof.Transcript
import ControlComponent.Proofs.Answer
import ControlComponent.Proofs.Atomic
import ControlComponent.Proofs.Authentic
import ControlComponent.Proofs.Binding
import ControlComponent.Proofs.CardKey
import ControlComponent.Proofs.Codes
import ControlComponent.Proofs.CommandLine.Lost
import ControlComponent.Proofs.CommandLine.Perform
import ControlComponent.Proofs.CommandLine.Release
import ControlComponent.Proofs.CommandLine.Stored
import ControlComponent.Proofs.CommandLine.Visit
import ControlComponent.Proofs.Completeness
import ControlComponent.Proofs.Context
import ControlComponent.Proofs.Course
import ControlComponent.Proofs.Effect
import ControlComponent.Proofs.Examined
import ControlComponent.Proofs.HonestVote
import ControlComponent.Proofs.Interruption
import ControlComponent.Proofs.Key.Certified
import ControlComponent.Proofs.Key.Reachable
import ControlComponent.Proofs.Key.Sealing
import ControlComponent.Proofs.Key.Service
import ControlComponent.Proofs.Key.Stored
import ControlComponent.Proofs.Lookup
import ControlComponent.Proofs.Outcome
import ControlComponent.Proofs.Ration
import ControlComponent.Proofs.Registered
import ControlComponent.Proofs.Replies
import ControlComponent.Proofs.Residue
import ControlComponent.Proofs.Run
import ControlComponent.Proofs.Signature
import ControlComponent.Proofs.Small
import ControlComponent.Proofs.Snapshot
import ControlComponent.Proofs.Text
import ControlComponent.Proofs.Transcript
import ControlComponent.Proofs.Verified
import ControlComponent.Proofs.Wire.CborRead
import ControlComponent.Proofs.Wire.Faithful
import ControlComponent.Proofs.Wire.Filled
import ControlComponent.Proofs.Wire.JsonRead
import ControlComponent.Proofs.Wire.Kept
import ControlComponent.Proofs.Wire.Thorough
import ControlComponent.Proofs.Wire.Torn
import ControlComponent.Proofs.Wire.Written
import ControlComponent.Randomness
import ControlComponent.Settings
import ControlComponent.Signature.Ed25519
import ControlComponent.Signature.Edwards
import ControlComponent.Signature.Scheme
import ControlComponent.Signed
import ControlComponent.Store.Basic
import ControlComponent.Store.Record
import ControlComponent.Store.Table
import ControlComponent.Suite
import ControlComponent.Text.Blank
import ControlComponent.Text.Decimal
import ControlComponent.Text.Hex
import ControlComponent.Text.Quoted
import ControlComponent.Text.Unprintable
import ControlComponent.Uuid
import ControlComponent.VoterKey
import ControlComponent.Wire.Binary64
import ControlComponent.Wire.Cbor
import ControlComponent.Wire.Codec
import ControlComponent.Wire.Document
import ControlComponent.Wire.Fault
import ControlComponent.Wire.Frame
import ControlComponent.Wire.Json
import ControlComponent.Wire.Record
import ControlComponent.Wire.Variant
import ControlComponent.Proofs.Key.Calls
import ControlComponent.Proofs.Key.Reopened
import ControlComponent.Proofs.Kinds
import ControlComponent.Proofs.Messages
import ControlComponent.Proofs.Alike
import ControlComponent.Proofs.Restart
import ControlComponent.Proofs.Wire.Distinct
import ControlComponent.Proofs.Signable
import ControlComponent.Proofs.Independence
import ControlComponent.Proofs.Evolution
import ControlComponent.Proofs.Plaintext
import ControlComponent.Proofs.Soundness
import ControlComponent.Proofs.Contributions
import ControlComponent.Proofs.Redelivery
import ControlComponent.Proofs.Shares
import ControlComponent.Proofs.Identifier
import ControlComponent.Proofs.Key.Published
import ControlComponent.Proofs.Admission
import ControlComponent.Proofs.VoterKey.Search
import ControlComponent.Proofs.VoterKey.Seed
import ControlComponent.Proofs.VoterKey.Separation
import ControlComponent.Proofs.Issued
import ControlComponent.Proofs.Collision
import ControlComponent.Proofs.Subgroup
import ControlComponent.Proofs.Arithmetic
