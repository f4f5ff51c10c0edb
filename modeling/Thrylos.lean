import Thrylos.Conservation
import Thrylos.SimulationRefinement
import Thrylos.FinalityOrder
import Thrylos.VoteCounting
import Thrylos.StakeSlashing
import Thrylos.SlashingCompleteness
import Thrylos.AttestationCrashes
import Thrylos.DoubleVoteWindow
import Thrylos.DowntimePenalties
import Thrylos.VoteSafety
import Thrylos.Attesting
import Thrylos.PackedBlocks
import Thrylos.SlashSplit
import Thrylos.CrossShardRuns
import Thrylos.GovernanceTally
import Thrylos.StakeDomainMembership
import Thrylos.ChainReplay
import Thrylos.ContractEffects
import Thrylos.Vrf
import Thrylos.Custody
import Thrylos.AddressSpelling
import Thrylos.JailLifecycle
import Thrylos.Restart
import Thrylos.Rollback
import Thrylos.FastSync
import Thrylos.PointsConversion
import Thrylos.PoolNonces
import Thrylos.PoolSelection
import Thrylos.BlockArithmetic
import Thrylos.ChainTraversal
import Thrylos.ScheduleCaching
import Thrylos.EvmReservations
import Thrylos.CreateAddress
import Thrylos.SignatureNormalization
