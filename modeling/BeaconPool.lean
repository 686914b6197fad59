import BeaconPool.Consensus.Types
import BeaconPool.Api.Structs
import BeaconPool.Server.Library
import BeaconPool.Server.Handler
import BeaconPool.Handlers.Attestations
import BeaconPool.Handlers.Operations
import BeaconPool.Handlers.Endpoints
import BeaconPool.Handlers.AttestationRuns
import BeaconPool.Handlers.OperationRuns
import BeaconPool.Broadcast.Loop
import BeaconPool.Broadcast.Submission
import BeaconPool.Broadcast.Completion
import BeaconPool.Properties.Admission
import BeaconPool.Properties.AttestationBatches
import BeaconPool.Properties.AttestationEffects
import BeaconPool.Properties.AttestationAcceptance
import BeaconPool.Properties.SyncMessages
import BeaconPool.Properties.BLSSubmission
import BeaconPool.Properties.Listing
import BeaconPool.Properties.Responses
