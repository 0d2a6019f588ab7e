import SlabRings.Session
import SlabRings.Occupancy.Lemmas
import SlabRings.Handle.Lemmas
import SlabRings.Proofs.Occupancy.Changes
import SlabRings.Proofs.Pool.Effects
import SlabRings.Proofs.Pool.Accounts
import SlabRings.Proofs.Outstanding
import SlabRings.Proofs.Rings.Circuit
import SlabRings.Proofs.Rings.Lists
import SlabRings.Proofs.Rings.Reading
import SlabRings.Proofs.Rings.Refinement
import SlabRings.Proofs.Rings.Closed
import SlabRings.Proofs.Pool.Counting
import SlabRings.Proofs.Pool.Vacancy
import SlabRings.Proofs.Offers
import SlabRings.Proofs.Placement
import SlabRings.Proofs.Recycling
import SlabRings.Proofs.Draining
import SlabRings.Proofs.Client.Rules
import SlabRings.Proofs.Client.Progress
import SlabRings.Proofs.Pool.Ledger
import SlabRings.Proofs.Pool.Underflow
import SlabRings.Proofs.Conservation
import SlabRings.Proofs.Tracking
import SlabRings.Proofs.Reclaiming
import SlabRings.Proofs.Resizing
import SlabRings.Proofs.Rings.Determined
import SlabRings.Proofs.Requests
import SlabRings.Proofs.Independence
import SlabRings.Proofs.Renewal
import SlabRings.Proofs.Retirement
import SlabRings.Proofs.Handles
import SlabRings.Proofs.Residence
import SlabRings.Proofs.Undoing
import SlabRings.Proofs.ReturnOrder
import SlabRings.Proofs.Locality
import SlabRings.Proofs.Preference
import SlabRings.Proofs.Returning
import SlabRings.Proofs.Admission
