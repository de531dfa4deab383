import StageStock.Http.Api
import StageStock.Json.Printer
import StageStock.Main
import StageStock.Overview.Report
import StageStock.Settings
import StageStock.Store.Dump
import StageStock.Proofs.Matching
import StageStock.Proofs.Soundness
import StageStock.Proofs.StoredPlace
import StageStock.Proofs.Table
import StageStock.Proofs.Replacement
import StageStock.Proofs.Frame
import StageStock.Proofs.Mutation
import StageStock.Proofs.Rounding
import StageStock.Proofs.Orders
import StageStock.Proofs.Requests
import StageStock.Proofs.Atomic
import StageStock.Proofs.Interleaving
import StageStock.Proofs.Alignment
import StageStock.Proofs.Seating
import StageStock.Proofs.Agreement
import StageStock.Proofs.Proper
import StageStock.Proofs.Conservation
import StageStock.Proofs.Refusal
import StageStock.Proofs.Distribution
import StageStock.Proofs.Lawful
import StageStock.Proofs.Sufficiency
import StageStock.Proofs.Steps
import StageStock.Proofs.Resolution
import StageStock.Proofs.Committing
import StageStock.Proofs.Plans
import StageStock.Proofs.Previews
import StageStock.Proofs.ShowDays
import StageStock.Proofs.Lifecycle
import StageStock.Proofs.Checks
import StageStock.Proofs.Spelling
import StageStock.Proofs.Figures
import StageStock.Proofs.RowForms
import StageStock.Proofs.Acceptance
import StageStock.Proofs.PlaceRows
import StageStock.Proofs.Oversight
import StageStock.Proofs.Fulfilment
import StageStock.Proofs.Whereabouts
import StageStock.Proofs.Versions
import StageStock.Proofs.Trail
import StageStock.Proofs.Telling
import StageStock.Proofs.Buckets
import StageStock.Proofs.Reissue
import StageStock.Proofs.Reseating
import StageStock.Proofs.Locality
import StageStock.Proofs.Independence
import StageStock.Proofs.Departure
import StageStock.Proofs.Returning
import StageStock.Proofs.GivingBack
import StageStock.Proofs.States
import StageStock.Proofs.Registration
import StageStock.Proofs.Subscriptions
import StageStock.Proofs.Restating
import StageStock.Proofs.Repetition
import StageStock.Proofs.Naming
import StageStock.Proofs.Amendment
import StageStock.Proofs.Spreading
import StageStock.Proofs.Resubmission
import StageStock.Proofs.Reserving
import StageStock.Proofs.Moving
import StageStock.Proofs.Adding
import StageStock.Proofs.WholeSets
import StageStock.Proofs.Attempts
import StageStock.Proofs.Checkout
import StageStock.Proofs.Lowering
import StageStock.Proofs.Instalments
import StageStock.Proofs.SharedDays
import StageStock.Proofs.SamePlace
import StageStock.Proofs.FairShares
import StageStock.Proofs.DraftEdits
import StageStock.Proofs.FailedEdits
import StageStock.Proofs.FanOut
import StageStock.Proofs.Tallies
import StageStock.Proofs.Shortage
import StageStock.Proofs.Inventories
import StageStock.Proofs.Verdict
import StageStock.Proofs.Balance
