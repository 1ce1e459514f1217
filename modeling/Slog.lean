import Slog.Basic
import Slog.BatchLog
import Slog.MultiHomeOrderer
import Slog.Sender
import Slog.Workload
import Slog.Proofs.OrdererRuns
import Slog.Proofs.BatchIds
import Slog.Proofs.SequencerOrder
import Slog.Proofs.BatchLogTracks
import Slog.Proofs.SlotAgreement
import Slog.Proofs.SequencerJoins
import Slog.Proofs.ClusterAgreement
import Slog.Proofs.ClusterTransactions
import Slog.Proofs.SenderSockets
import Slog.Proofs.WorkloadRecords
import Slog.Proofs.WorkloadHomes
import Slog.Proofs.RemoteDraws
